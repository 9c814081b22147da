import Conform.Message.TemplateSet
/-!
The English templates for the checks, the types and the predicates that come with the library.
-/

namespace Conform.TemplateSet

def englishChecks : Entries String :=
  [("key_presence", "is missing"),
    ("filled", "must be filled")]

def englishTypes : Entries String :=
  [("integer", "must be an integer"),
    ("float", "must be a float"),
    ("decimal", "must be a decimal"),
    ("bool", "must be boolean"),
    ("string", "must be a string"),
    ("array", "must be an array"),
    ("hash", "must be a hash")]

def englishPredicates : Entries String :=
  [("int?", "must be an integer"),
    ("float?", "must be a float"),
    ("decimal?", "must be a decimal"),
    ("number?", "must be a number"),
    ("str?", "must be a string"),
    ("bool?", "must be boolean"),
    ("array?", "must be an array"),
    ("hash?", "must be a hash"),
    ("nil?", "cannot be defined"),
    ("filled?", "must be filled"),
    ("empty?", "must be empty"),
    ("lt?", "must be less than %\x7bnum\x7d"),
    ("lteq?", "must be less than or equal to %\x7bnum\x7d"),
    ("gt?", "must be greater than %\x7bnum\x7d"),
    ("gteq?", "must be greater than or equal to %\x7bnum\x7d"),
    ("eql?", "must be equal to %\x7bleft\x7d"),
    ("not_eql?", "must not be equal to %\x7bleft\x7d"),
    ("size?", "size must be %\x7bsize\x7d"),
    ("min_size?", "size cannot be less than %\x7bnum\x7d"),
    ("max_size?", "size cannot be greater than %\x7bnum\x7d"),
    ("included_in?", "must be one of: %\x7blist\x7d"),
    ("excluded_from?", "must not be one of: %\x7blist\x7d"),
    ("odd?", "must be odd"),
    ("even?", "must be even"),
    ("true?", "must be true"),
    ("false?", "must be false")]

def english : TemplateSet :=
  ⟨OrderedMap.ofList englishChecks, OrderedMap.ofList englishTypes,
    OrderedMap.ofList englishPredicates⟩

end Conform.TemplateSet
