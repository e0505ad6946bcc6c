import ServiceOperator.Manifest.SpecSchema

/-!
# What a pattern admits

The schema of a text may give a pattern, and Kubernetes stores a record only if its text matches.  A
pattern is a row of parts between two anchors, so that it is matched by whole texts only.
`Pattern.spelling` writes it in the notation of schemas, and `Pattern.Admits` says which texts
match.

Only what the patterns of the schemas use is here: ranges of characters, one of them or any number,
a character that may be missing, and a choice of words.  Matching is by parts from left to right
without priorities, which makes no difference for whether a whole text matches.  That a pattern of
parts is the one of the schema is a fact about two texts, and stands next to the pattern.
-/

namespace ServiceOperator.Manifest

/-- A part of a pattern. -/
inductive PatternPart where
  /-- One character of a range. -/
  | within (first last : Char)
  /-- Any number of characters of a range. -/
  | manyWithin (first last : Char)
  /-- A character that may be left out. -/
  | perhaps (c : Char)
  /-- One of some texts. -/
  | oneOf (texts : List String)

namespace PatternPart

/-- A range of characters in the notation of schemas. -/
def range (first last : Char) : String :=
  String.ofList ['[', first, '-', last, ']']

/-- A part in the notation of schemas. -/
def spelling : PatternPart → String
  | within first last => range first last
  | manyWithin first last => range first last ++ "*"
  | perhaps c => String.ofList [c, '?']
  | oneOf texts => "(" ++ "|".intercalate texts ++ ")"

/-- What a part stands for. -/
def Admits : PatternPart → List Char → Prop
  | within first last, cs => ∃ c, cs = [c] ∧ first ≤ c ∧ c ≤ last
  | manyWithin first last, cs => ∀ c ∈ cs, first ≤ c ∧ c ≤ last
  | perhaps c, cs => cs = [] ∨ cs = [c]
  | oneOf texts, cs => ∃ text ∈ texts, cs = text.toList

end PatternPart

/-- A pattern for whole texts. -/
abbrev Pattern := List PatternPart

namespace Pattern

/-- A pattern in the notation of schemas. -/
def spelling (pattern : Pattern) : String :=
  "^" ++ String.join (pattern.map PatternPart.spelling) ++ "$"

/-- A text matches if it is made of what the parts stand for, in their order. -/
def Admits : Pattern → List Char → Prop
  | [], cs => cs = []
  | part :: rest, cs =>
    ∃ before behind, cs = before ++ behind ∧ part.Admits before ∧ Admits rest behind

/-- What the size of a disk looks like. -/
def diskSpace : Pattern :=
  [.within '1' '9', .manyWithin '0' '9', .perhaps ' ', .oneOf ["MiB", "GiB", "TiB"]]

theorem spelling_diskSpace : diskSpace.spelling = diskSpacePattern := by
  rfl

end Pattern

end ServiceOperator.Manifest
