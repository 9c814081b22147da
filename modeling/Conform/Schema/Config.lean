import Conform.DeclaredType.Registry
import Conform.Predicate.Registry
import Conform.Message.English
/-!
What a declaration is compiled against.
-/

namespace Conform

structure Config where
  style : InputStyle
  types : TypeRegistry
  predicates : PredicateRegistry
  templates : TemplateSet

namespace Config

def forStyle (style : InputStyle) : Config where
  style := style
  types := TypeRegistry.forStyle style
  predicates := PredicateRegistry.builtin
  templates := TemplateSet.english

def params : Config := forStyle .params

def json : Config := forStyle .json

instance : Inhabited Config := ⟨params⟩

def withTemplates (config : Config) (templates : TemplateSet) : Config :=
  { config with templates := config.templates.merge templates }

def withType (config : Config) (type : DeclaredType) : Config :=
  { config with types := config.types.register type }

def withPredicate (config : Config) (predicate : Predicate) : Config :=
  { config with predicates := config.predicates.register predicate }

end Config

end Conform
