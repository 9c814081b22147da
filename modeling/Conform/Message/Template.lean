import Conform.Check
import Conform.Value.Display
/-!
Message templates. A template is a sequence of pieces: literal text and placeholders, a name
between `%` and braces. Filling in arguments is one pass from left to right, so what an argument
brings in is never looked at again.
-/

namespace Conform

namespace Template

inductive Piece where
  | literal (text : List Char)
  | placeholder (name : List Char)
  | unclosed (rest : List Char)

def splitOpening : List Char → Option (List Char × List Char)
  | [] => none
  | '%' :: '\x7b' :: text => some ([], text)
  | c :: text => (splitOpening text).map fun (front, back) => (c :: front, back)

theorem splitOpening_length {text front back : List Char}
    (h : splitOpening text = some (front, back)) :
    front.length + back.length + 2 = text.length := by
  induction text generalizing front back with
  | nil => simp [splitOpening] at h
  | cons c text ih =>
    unfold splitOpening at h
    split at h
    · simp at h
    · next heq =>
      simp only [Option.some.injEq, Prod.mk.injEq] at h
      simp only [List.cons.injEq] at heq
      obtain ⟨rfl, rfl⟩ := h
      rw [heq.2]
      simp
    · next heq =>
      simp only [List.cons.injEq] at heq
      obtain ⟨rfl, rfl⟩ := heq
      simp only [Option.map_eq_some_iff, Prod.exists, Prod.mk.injEq] at h
      obtain ⟨f, b, hs, rfl, rfl⟩ := h
      have := ih hs
      simp only [List.length_cons]
      omega

def splitClosing : List Char → Option (List Char × List Char)
  | [] => none
  | c :: text =>
    if c = '\x7d' then some ([], text)
    else (splitClosing text).map fun (front, back) => (c :: front, back)

theorem splitClosing_length {text front back : List Char}
    (h : splitClosing text = some (front, back)) :
    front.length + back.length + 1 = text.length := by
  induction text generalizing front back with
  | nil => simp [splitClosing] at h
  | cons c text ih =>
    unfold splitClosing at h
    split at h
    · simp only [Option.some.injEq, Prod.mk.injEq] at h
      obtain ⟨rfl, rfl⟩ := h
      simp
    · simp only [Option.map_eq_some_iff, Prod.exists, Prod.mk.injEq] at h
      obtain ⟨f, b, hs, rfl, rfl⟩ := h
      have := ih hs
      simp only [List.length_cons]
      omega

def literal (text : List Char) : List Piece := if text.isEmpty then [] else [.literal text]

def pieces (template : List Char) : List Piece :=
  match _h : splitOpening template with
  | none => literal template
  | some (front, back) =>
    match _hc : splitClosing back with
    | none => literal front ++ [.unclosed back]
    | some (name, rest) => literal front ++ .placeholder name :: pieces rest
termination_by template.length
decreasing_by
  have := splitOpening_length _h
  have := splitClosing_length _hc
  omega

def Piece.spelling : Piece → List Char
  | literal text => text
  | placeholder name => '%' :: '\x7b' :: name ++ ['\x7d']
  | unclosed rest => '%' :: '\x7b' :: rest

def Piece.fill (args : List Argument) : Piece → List Char
  | placeholder name =>
    match args.find? fun a => a.name.toList == name with
    | some a => a.value.display.toList
    | none => (placeholder name).spelling
  | piece => piece.spelling

def interpolate (template : String) (args : List Argument) : String :=
  String.ofList ((pieces template.toList).flatMap (Piece.fill args))

end Template

end Conform
