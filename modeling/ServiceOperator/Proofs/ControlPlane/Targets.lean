import ServiceOperator.Proofs.ControlPlane.Calls
import ServiceOperator.Proofs.Text.Paths
import Mathlib.Data.List.Forall2

/-!
# Where requests go

The address of a thing is a list of parts, some of which users write, and a request for it goes to
the base path followed by one segment for each part.  A part that is plain can be read back from its
segment, whatever it is (`reaches_iff`), and so no two addresses of plain parts share a target.

Not every part is plain.  The parts `.` and `..` have no segment at all, and tabs and line breaks
are left out of theirs.  A request for such an address goes somewhere else, and what lies there may
be the thing that holds the one that was meant.

### How an address is followed

A target is written by pushing one part after the other on a path (`pushPart`), and each push may
shorten the path, so there is no formula for the target of an address in general.  Two facts about a
fold of pushes stand in for it:

* `foldl_pushPart` bounds the length.  A path gets longer by at most one segment for each part, and
  where the bound is met each part has left a segment behind (`LeftBy`).  It leads from an address
  that is reached to its parts being plain.
* `foldl_pushPart_of_plain` says what plain parts leave, and leads back.

Both speak of paths as lists.  That a list can be read off the text of its target is `joined_inj`,
and it needs segments without slashes, which is why base URLs are followed through their parser
(`segments_of_parseBase`).
-/

namespace ServiceOperator

open Text

namespace Url

variable {u : Url} {kind : SchemeKind} {part segment : String} {path parts rest : List String}

/-! ## Segments -/

/-- A part that tabs and line breaks have no place in, and that is none of the two that address
nothing. -/
structure IsPlain (part : String) : Prop where
  here : part ≠ "."
  above : part ≠ ".."
  unbroken : ∀ c ∈ part.toList, c ≠ '\t' ∧ c ≠ '\n' ∧ c ≠ '\r'

/-- What is left of a part in its segment. -/
def unbroken (part : String) : List Char :=
  part.toList.filter fun c => c ≠ '\t' ∧ c ≠ '\n' ∧ c ≠ '\r'

/-- A segment is one segment, and a part is read back from it. -/
structure Encodes (segment part : String) : Prop where
  one : Slashless segment
  reads : percentDecode segment.toList = utf8Bytes part.toList

theorem reservedInSegment_of_control {b : UInt8} (control : isControlByte b = true) :
    reservedInSegment kind b = true := by
  rw [reservedInSegment, reservedByte, control]
  rfl

/-- The sign that begins an escape is escaped itself, so that no escape in a segment is the
part's own. -/
theorem reservedInSegment_percent : reservedInSegment kind 0x25 = true := by
  cases kind <;> decide

theorem reservedInSegment_slash : reservedInSegment kind 0x2F = true := by
  cases kind <;> decide

/-- What is read back from a segment is the part without its tabs and line breaks. -/
theorem percentDecode_segmentOf (kind : SchemeKind) (part : String) :
    percentDecode (segmentOf kind part).toList = utf8Bytes (unbroken part) := by
  rw [segmentOf, encoded, String.toList_ofList]
  exact percentDecode_percentEncode (fun _ => reservedInSegment_of_control)
    reservedInSegment_percent

/-- A slash that is not reserved stands for itself. -/
theorem slashless_encoded {reserved : UInt8 → Bool} {cs : List Char}
    (controls : ∀ b, isControlByte b = true → reserved b = true)
    (slash : '/' ∉ cs ∨ reserved 0x2F = true) : Slashless (encoded reserved cs) := by
  intro member
  rw [encoded, String.toList_ofList] at member
  rcases mem_percentEncode controls member with escape | letter | ⟨listed, b, same, free⟩
  · cases escape
  · cases letter
  · rcases slash with absent | taken
    · exact absent listed
    · have byte : b = 0x2F := UInt8.toNat_inj.mp same.symm
      rw [byte, taken] at free
      cases free

theorem slashless_segmentOf : Slashless (segmentOf kind part) :=
  slashless_encoded (fun _ => reservedInSegment_of_control) (.inr reservedInSegment_slash)

/-- Nothing is left out of a part exactly if there are no tabs and line breaks in it. -/
theorem unbroken_eq_iff : unbroken part = part.toList ↔
    ∀ c ∈ part.toList, c ≠ '\t' ∧ c ≠ '\n' ∧ c ≠ '\r' := by
  rw [unbroken, List.filter_eq_self]
  simp

/-- A part is read back from its segment exactly if nothing was left out. -/
theorem encodes_segmentOf_iff :
    Encodes (segmentOf kind part) part ↔ unbroken part = part.toList := by
  constructor
  · rintro ⟨-, reads⟩
    rw [percentDecode_segmentOf] at reads
    exact utf8Bytes_inj reads
  · intro whole
    exact ⟨slashless_segmentOf, by rw [percentDecode_segmentOf, whole]⟩

/-- What is written like a part without anything to escape comes from that part. -/
theorem unbroken_of_segmentOf {other : String} (same : segmentOf kind part = segmentOf kind other) :
    unbroken part = unbroken other := by
  apply utf8Bytes_inj
  rw [← percentDecode_segmentOf kind, same, percentDecode_segmentOf]

/-- No part is read back from two segments. -/
theorem Encodes.part_eq {other : String} (encodes : Encodes segment part)
    (encodes' : Encodes segment other) : part = other :=
  String.toList_inj.mp (utf8Bytes_inj (encodes.reads.symm.trans encodes'.reads))

/-- Only a part that is written like one of the two that address nothing is taken for it. -/
theorem eq_of_segmentOf {dots : String} (whole : segmentOf kind dots = dots)
    (unbrokenDots : unbroken dots = dots.toList) (unbroken : unbroken part = part.toList)
    (same : segmentOf kind part = dots) : part = dots := by
  have left := unbroken_of_segmentOf (same.trans whole.symm)
  rw [unbroken, unbrokenDots] at left
  exact String.toList_inj.mp left

theorem segmentOf_dot : segmentOf kind "." = "." := by
  cases kind <;> decide

theorem segmentOf_dots : segmentOf kind ".." = ".." := by
  cases kind <;> decide

/-! ## Paths -/

/-- The text of a path has one slash in front of each segment, and that of an empty path is a
single slash. -/
theorem toList_joined : (joined path).toList = slashed (if path = [] then [""] else path) := by
  cases path with
  | nil => rfl
  | cons s rest =>
      have slash (s : String) : ("/" ++ s).toList = '/' :: s.toList := String.toList_append
      rw [if_neg (List.cons_ne_nil _ _)]
      change (String.join _).toList = _
      rw [String.toList_join, List.flatMap_map]
      simp only [slash]
      rfl

/-- A path is read back from its text.  Only the path of one empty segment is written like another,
that without segments. -/
theorem joined_inj {path' : List String} (plain : ∀ s ∈ path, Slashless s)
    (plain' : ∀ s ∈ path', Slashless s) (other : path ≠ [""]) (other' : path' ≠ [""])
    (same : joined path = joined path') : path = path' := by
  have rootedPlain {path : List String} (plain : ∀ s ∈ path, Slashless s) :
      ∀ s ∈ (if path = [] then [""] else path), Slashless s := by
    split
    · rw [List.forall_mem_singleton]
      exact List.not_mem_nil
    · exact plain
  have texts := congrArg String.toList same
  rw [toList_joined, toList_joined] at texts
  have paths := slashed_inj (rootedPlain plain) (rootedPlain plain') texts
  split at paths
  case isTrue none =>
    split at paths
    case isTrue none' => rw [none, none']
    case isFalse => exact absurd paths.symm other'
  case isFalse =>
    split at paths
    case isTrue => exact absurd paths other
    case isFalse => exact paths

theorem rooted_ne : rooted path ≠ [""] := by
  unfold rooted
  split
  · simp
  · assumption

theorem rooted_of_ne (other : path ≠ [""]) : rooted path = path := if_neg other

theorem rooted_append (some : path ≠ []) : rooted (path ++ [segment]) = path ++ [segment] := by
  refine rooted_of_ne fun same => some ?_
  exact (List.append_inj' (same.trans (List.nil_append _).symm) rfl).1

/-- What one more part does to a path. -/
inductive Pushes (kind : SchemeKind) (path : List String) (part : String) :
    List String → Prop
  /-- The path gets no longer. -/
  | lost {next : List String} (short : next.length ≤ path.length) : Pushes kind path part next
  | written (here : part ≠ ".") (above : part ≠ "..") :
      Pushes kind path part (path ++ [segmentOf kind part])
  /-- The part is written like the one that stands for the path itself. -/
  | emptied (like : segmentOf kind part = ".") : Pushes kind path part (path ++ [""])

/-- One more part makes the path no longer, or leaves its segment or an empty one behind. -/
theorem pushPart_pushes : Pushes kind path part (pushPart kind path part) := by
  have roots (segments : List String) : rooted segments = segments ∨ rooted segments = [] := by
    unfold rooted
    split
    · exact .inr rfl
    · exact .inl rfl
  -- What is pushed is lost where the path becomes the root.
  unfold pushPart
  split
  case isTrue => exact .lost (Nat.le_refl _)
  case isFalse other =>
    obtain ⟨here, above⟩ := not_or.mp other
    dsimp only
    split
    case isTrue like =>
      rcases roots (path ++ [""]) with same | none
      · rw [same]
        exact .emptied like
      · exact .lost (by simp [none])
    case isFalse =>
      split
      case isTrue =>
        cases path with
        | nil => exact .lost (Nat.le_refl _)
        | cons s rest =>
            rcases roots ((s :: rest).dropLast ++ [""]) with same | none
            · exact .lost (by simp [same])
            · exact .lost (by simp [none])
      case isFalse =>
        rcases roots (path ++ [segmentOf kind part]) with same | none
        · rw [same]
          exact .written here above
        · exact .lost (by simp [none])

/-- A segment that one part may have left behind. -/
def LeftBy (kind : SchemeKind) (segment part : String) : Prop :=
  segment = segmentOf kind part ∧ part ≠ "." ∧ part ≠ ".." ∨
    segment = "" ∧ segmentOf kind part = "."

/-- A path gets longer by at most one segment for each part, and where it gets longer by all of them
each part left one behind. -/
theorem foldl_pushPart (kind : SchemeKind) (parts path : List String) :
    ((parts.foldl (pushPart kind) path).length ≤ path.length + parts.length) ∧
    ((parts.foldl (pushPart kind) path).length = path.length + parts.length →
      ∃ segments, parts.foldl (pushPart kind) path = path ++ segments ∧
        List.Forall₂ (LeftBy kind) segments parts) := by
  induction parts generalizing path with
  | nil => exact ⟨Nat.le_refl _, fun _ => ⟨[], (List.append_nil _).symm, .nil⟩⟩
  | cons part rest ih =>
      rw [List.foldl_cons, List.length_cons]
      obtain ⟨bound, exact⟩ := ih (pushPart kind path part)
      -- If a part leaves nothing behind, the rest cannot make up for it.
      have longer {segment : String} (same : pushPart kind path part = path ++ [segment])
          (left : LeftBy kind segment part) :
          (rest.foldl (pushPart kind) (pushPart kind path part)).length ≤
            path.length + (rest.length + 1) ∧
          ((rest.foldl (pushPart kind) (pushPart kind path part)).length =
              path.length + (rest.length + 1) →
            ∃ segments, rest.foldl (pushPart kind) (pushPart kind path part) = path ++ segments ∧
              List.Forall₂ (LeftBy kind) segments (part :: rest)) := by
        rw [same] at bound exact ⊢
        rw [List.length_append, List.length_singleton] at bound exact
        refine ⟨by omega, fun full => ?_⟩
        obtain ⟨segments, split, lefts⟩ := exact (by omega)
        exact ⟨segment :: segments, by rw [split, List.append_assoc]; rfl, .cons left lefts⟩
      have pushes : Pushes kind path part (pushPart kind path part) := pushPart_pushes
      generalize pushPart kind path part = next at pushes bound longer ⊢
      cases pushes with
      | lost short => exact ⟨by omega, fun full => by omega⟩
      | written here above => exact longer rfl (.inl ⟨rfl, here, above⟩)
      | emptied like => exact longer rfl (.inr ⟨rfl, like⟩)

/-- The segment of a plain part is none of the two that address nothing. -/
theorem segmentOf_ne_dot (kind : SchemeKind) (plain : IsPlain part) :
    segmentOf kind part ≠ "." ∧ segmentOf kind part ≠ ".." := by
  have whole := unbroken_eq_iff.mpr plain.unbroken
  constructor
  · intro same
    exact plain.here (eq_of_segmentOf segmentOf_dot (by decide) whole same)
  · intro same
    exact plain.above (eq_of_segmentOf segmentOf_dots (by decide) whole same)

/-- Each plain part leaves its segment behind. -/
theorem foldl_pushPart_of_plain (some : path ≠ []) (plain : ∀ part ∈ parts, IsPlain part) :
    parts.foldl (pushPart kind) path = path ++ parts.map (segmentOf kind) := by
  induction parts generalizing path with
  | nil => exact (List.append_nil _).symm
  | cons part rest ih =>
      obtain ⟨plainPart, plain⟩ := List.forall_mem_cons.mp plain
      obtain ⟨notDot, notDots⟩ := segmentOf_ne_dot kind plainPart
      have pushed : pushPart kind path part = path ++ [segmentOf kind part] := by
        rw [pushPart, if_neg (not_or.mpr ⟨plainPart.here, plainPart.above⟩)]
        dsimp only
        rw [if_neg notDot, if_neg notDots, rooted_append some]
      rw [List.foldl_cons, pushed, ih (by simp) plain, List.append_assoc, List.map_cons]
      rfl

/-- What is added to a path without slashes in its segments has none in its own, and no path is that
of one empty segment. -/
theorem foldl_pushPart_slashless (plain : ∀ s ∈ path, Slashless s) (other : path ≠ [""]) :
    (∀ s ∈ parts.foldl (pushPart kind) path, Slashless s) ∧
      parts.foldl (pushPart kind) path ≠ [""] := by
  have empty : Slashless "" := List.not_mem_nil
  have roots {segments : List String} (plain : ∀ s ∈ segments, Slashless s) :
      ∀ s ∈ rooted segments, Slashless s := by
    unfold rooted
    split
    · simp
    · exact plain
  have adds {path : List String} {segment : String} (plain : ∀ s ∈ path, Slashless s)
      (one : Slashless segment) : ∀ s ∈ path ++ [segment], Slashless s := by
    rw [List.forall_mem_append, List.forall_mem_singleton]
    exact ⟨plain, one⟩
  induction parts generalizing path with
  | nil => exact ⟨plain, other⟩
  | cons part rest ih =>
      rw [List.foldl_cons]
      unfold pushPart
      split
      case isTrue => exact ih plain other
      case isFalse =>
        refine ih (roots ?_) rooted_ne
        split
        · exact adds plain empty
        · split
          · exact adds (fun s member => plain s (List.dropLast_subset _ member)) empty
          · exact adds plain slashless_segmentOf

/-! ## Base URLs -/

/-- What lies between slashes has no slash in it. -/
theorem slashless_splitAt {cs part : List Char} (listed : part ∈ Host.splitAt '/' cs) :
    '/' ∉ part := by
  induction cs generalizing part with
  | nil =>
      rw [Host.splitAt, List.mem_singleton] at listed
      rw [listed]
      exact List.not_mem_nil
  | cons c rest ih =>
      rw [Host.splitAt] at listed
      split at listed
      case isTrue =>
        rcases List.mem_cons.mp listed with rfl | later
        · exact List.not_mem_nil
        · exact ih later
      case isFalse other =>
        have next (first : List Char) (plain : '/' ∉ first) : '/' ∉ c :: first := by
          rw [List.mem_cons, not_or]
          exact ⟨fun same => other same.symm, plain⟩
        cases parts : Host.splitAt '/' rest with
        | nil =>
            rw [parts, List.mem_singleton] at listed
            rw [listed]
            exact next [] List.not_mem_nil
        | cons first later =>
            simp only [parts] at listed ih
            rcases List.mem_cons.mp listed with rfl | member
            · exact next first (ih (List.mem_cons_self ..))
            · exact ih (List.mem_cons_of_mem _ member)

/-- To resolve the segments that address nothing adds no slash: what is left was there, or is
empty. -/
theorem slashless_resolveDots {before segments : List String}
    (plain : ∀ s ∈ before, Slashless s) (plain' : ∀ s ∈ segments, Slashless s) :
    ∀ s ∈ resolveDots before segments, Slashless s := by
  have empty : Slashless "" := List.not_mem_nil
  have above {before : List String} (plain : ∀ s ∈ before, Slashless s) :
      ∀ s ∈ before.drop 1, Slashless s := fun s member => plain s (List.mem_of_mem_drop member)
  have ends {segments : List String} (plain : ∀ s ∈ segments, Slashless s) :
      ∀ s ∈ segments.reverse, Slashless s := fun s member => plain s (List.mem_reverse.mp member)
  fun_induction resolveDots before segments with
  | case1 before => exact ends plain
  | case2 before s => exact ends (List.forall_mem_cons.mpr ⟨empty, above plain⟩)
  | case3 before s => exact ends (List.forall_mem_cons.mpr ⟨empty, plain⟩)
  | case4 before s =>
      exact ends (List.forall_mem_cons.mpr ⟨plain' s (List.mem_cons_self ..), plain⟩)
  | case5 before s rest _ _ ih =>
      exact ih (above plain) (List.forall_mem_cons.mp plain').2
  | case6 before s rest _ _ _ ih =>
      exact ih plain (List.forall_mem_cons.mp plain').2
  | case7 before s rest _ _ _ ih =>
      obtain ⟨plainHead, plainRest⟩ := List.forall_mem_cons.mp plain'
      exact ih (List.forall_mem_cons.mpr ⟨plainHead, plain⟩) plainRest

/-- The path of a URL is read as segments without slashes. -/
theorem slashless_pathSegments {text : List Char} :
    ∀ s ∈ pathSegments kind text, Slashless s := by
  have controls (b : UInt8) (control : isControlByte b = true) : reservedInPath b = true := by
    rw [reservedInPath, reservedByte, control]
    rfl
  unfold pathSegments
  dsimp only
  split
  case h_1 =>
    split
    · simp
    · rw [List.forall_mem_singleton]
      exact List.not_mem_nil
  case h_2 =>
    refine slashless_resolveDots (by simp) fun s member => ?_
    obtain ⟨part, listed, rfl⟩ := List.mem_map.mp member
    exact slashless_encoded controls (.inl (slashless_splitAt listed))

/-- The segments of a URL have no slashes in them. -/
def IsSegmented (u : Url) : Prop :=
  ∀ segments, u.segments = some segments → ∀ s ∈ segments, Slashless s

theorem isSegmented_ofPath {scheme text : List Char} : (ofPath scheme text).IsSegmented := by
  intro segments same
  cases same
  exact slashless_pathSegments

theorem isSegmented_ofPlain {scheme text : List Char} : (ofPlain scheme text).IsSegmented := by
  intro segments same
  cases same

/-- What a check lets through is read as before. -/
theorem eq_of_checked {check : Except UrlError Unit} {read : Url}
    (checked : (do check; return read) = Except.ok u) : u = read := by
  cases check with
  | error e => cases checked
  | ok _ =>
      cases checked
      rfl

theorem isSegmented_ofAuthority {scheme text : List Char} (read : ofAuthority scheme text = .ok u) :
    u.IsSegmented := by
  rw [eq_of_checked read]
  exact isSegmented_ofPath

theorem isSegmented_ofFile {text : List Char} (read : ofFile text = .ok u) : u.IsSegmented := by
  unfold ofFile at read
  dsimp only at read
  split at read
  case h_1 =>
    split at read
    case isTrue =>
      split at read
      case isTrue => cases read; exact isSegmented_ofPath
      case isFalse =>
        split at read
        case isTrue => cases read; exact isSegmented_ofPath
        case isFalse =>
          rw [eq_of_checked read]
          exact isSegmented_ofPath
    case isFalse => cases read; exact isSegmented_ofPath
  case h_2 => cases read; exact isSegmented_ofPath

/-- A URL is read with segments that have no slashes in them. -/
theorem isSegmented_of_parse {s : String} (parsed : parse s = .ok u) : u.IsSegmented := by
  unfold parse at parsed
  split at parsed
  case h_1 => cases parsed
  case h_2 =>
    split at parsed
    case h_1 => exact isSegmented_ofAuthority parsed
    case h_2 => exact isSegmented_ofFile parsed
    case h_3 =>
      split at parsed
      case h_1 => exact isSegmented_ofAuthority parsed
      case h_2 => cases parsed; exact isSegmented_ofPath
      case h_3 => cases parsed; exact isSegmented_ofPlain

/-- A base URL has a path made of segments, and they have no slashes in them. -/
theorem segments_of_parseBase {s : String} (parsed : parseBase s = .ok u) :
    ∃ segments, u.segments = some segments ∧ ∀ s ∈ segments, Slashless s := by
  unfold parseBase at parsed
  split at parsed
  case h_1 => cases parsed
  case h_2 base read =>
    split at parsed
    case isTrue => cases parsed
    case isFalse carries =>
      cases parsed
      obtain ⟨segments, same⟩ := Option.ne_none_iff_exists'.mp
        (fun none => carries (Option.isNone_iff_eq_none.mpr none))
      exact ⟨segments, same, isSegmented_of_parse read segments same⟩

/-! ## Addresses -/

/-- The segments of a base path, less an empty one at its end. -/
def baseSegments (segments : List String) : List String :=
  if segments.getLast? = some "" then segments.dropLast else segments

/-- The query of a URL, behind its question mark. -/
def queryText (u : Url) : String := (u.query.map ("?" ++ ·)).getD ""

/-- A request for an address reaches it: it goes to the base path, less an empty segment at its end,
followed by one segment for each part, from which the part is read back. -/
def Reaches (u : Url) (parts : List String) : Prop :=
  ∃ base segments, u.segments = some base ∧ List.Forall₂ Encodes segments parts ∧
    u.target parts = joined (baseSegments base ++ segments) ++ u.queryText

section Reaches

variable {base : List String}

/-- The segments that requests for an address go to. -/
def targetSegments (u : Url) (base parts : List String) : List String :=
  parts.foldl (pushPart (schemeKind u.scheme.toList)) (rooted (baseSegments base))

/-- The target of an address is its segments behind the base path, and then the query of the
base. -/
theorem target_eq (carries : u.segments = some base) :
    u.target parts = joined (u.targetSegments base parts) ++ u.queryText := by
  unfold target
  rw [carries]
  rfl

/-- The segments of a base path have no slashes in them without the empty one at its end either. -/
theorem baseSegments_slashless (plain : ∀ s ∈ base, Slashless s) :
    ∀ s ∈ baseSegments base, Slashless s := by
  unfold baseSegments
  split
  · exact fun s member => plain s (List.dropLast_subset _ member)
  · exact plain

/-- A base path is the root of one empty segment only if it is written as two slashes. -/
theorem baseSegments_eq_iff : baseSegments base = [""] ↔ base = ["", ""] := by
  unfold baseSegments
  constructor
  · intro same
    split at same
    case isTrue last =>
      obtain ⟨front, rfl⟩ := List.getLast?_eq_some_iff.mp last
      rw [List.dropLast_concat] at same
      rw [same]
      rfl
    case isFalse last =>
      rw [same] at last
      exact absurd rfl last
  · rintro rfl
    rfl

/-- The target of any address is made of segments without slashes, and is never the path of one
empty segment, so that it can be read back from its text. -/
theorem targetSegments_slashless (u : Url) (parts : List String)
    (plain : ∀ s ∈ base, Slashless s) :
    (∀ s ∈ u.targetSegments base parts, Slashless s) ∧ u.targetSegments base parts ≠ [""] := by
  refine foldl_pushPart_slashless ?_ rooted_ne
  unfold rooted
  split
  · simp
  · exact baseSegments_slashless plain

theorem segmentOf_project : segmentOf kind "project" = "project" := by
  cases kind <;> decide

theorem isPlain_project : IsPlain "project" :=
  ⟨by decide, by decide, by simp⟩

/-- Plain parts leave their segments behind the base path, one by one. -/
theorem targetSegments_of_plain (plain : ∀ part ∈ rest, IsPlain part) :
    u.targetSegments base ("project" :: rest) = rooted (baseSegments base) ++
      ("project" :: rest).map (segmentOf (schemeKind u.scheme.toList)) := by
  -- Only the first part may meet a path without segments, and it is no empty one.
  have first {path : List String} : rooted (path ++ ["project"]) = path ++ ["project"] := by
    cases path with
    | nil => rfl
    | cons s later => exact rooted_append (List.cons_ne_nil _ _)
  have pushed {path : List String} :
      pushPart (schemeKind u.scheme.toList) path "project" = path ++ ["project"] := by
    rw [pushPart, if_neg (by decide)]
    dsimp only
    rw [segmentOf_project, if_neg (by decide), if_neg (by decide), first]
  rw [targetSegments, List.foldl_cons, pushed, foldl_pushPart_of_plain (by simp) plain,
    List.append_assoc, List.map_cons, segmentOf_project]
  rfl

/-- The target of an address is read back as far as its segments. -/
theorem targetSegments_inj {path : List String} (plain : ∀ s ∈ base, Slashless s)
    (plain' : ∀ s ∈ path, Slashless s) (other : path ≠ [""])
    (same : joined (u.targetSegments base parts) ++ u.queryText = joined path ++ u.queryText) :
    u.targetSegments base parts = path := by
  obtain ⟨slashless, notEmpty⟩ := targetSegments_slashless u parts plain
  refine joined_inj slashless plain' notEmpty other ?_
  have texts := congrArg String.toList same
  rw [String.toList_append, String.toList_append] at texts
  exact String.toList_inj.mp (List.append_cancel_right texts)

/-- What is read back from what a part left behind is the part, only if it is plain. -/
theorem isPlain_of_leftBy {kind : SchemeKind} (left : LeftBy kind segment part)
    (encodes : Encodes segment part) : IsPlain part := by
  rcases left with ⟨rfl, here, above⟩ | ⟨rfl, like⟩
  · exact ⟨here, above, unbroken_eq_iff.mp (encodes_segmentOf_iff.mp encodes)⟩
  · -- Nothing is read back from an empty segment, but the part is written with a dot.
    have nothing : utf8Bytes part.toList = utf8Bytes [] := encodes.reads.symm
    rw [segmentOf, utf8Bytes_inj nothing] at like
    exact absurd like (by cases kind <;> decide)

/-- If every part is read back from what it may have left behind, all of them are plain. -/
theorem isPlain_of_forall₂ {kind : SchemeKind} {segments : List String}
    (lefts : List.Forall₂ (LeftBy kind) segments parts)
    (encodes : List.Forall₂ Encodes segments parts) : ∀ part ∈ parts, IsPlain part := by
  induction lefts with
  | nil => simp
  | cons left lefts ih =>
      cases encodes with
      | cons encodes later =>
          exact List.forall_mem_cons.mpr ⟨isPlain_of_leftBy left encodes, ih later⟩

theorem slashless_of_forall₂ {segments : List String}
    (encodes : List.Forall₂ Encodes segments parts) : ∀ s ∈ segments, Slashless s := by
  induction encodes with
  | nil => simp
  | cons first _ ih => exact List.forall_mem_cons.mpr ⟨first.one, ih⟩

theorem encodes_of_plain (kind : SchemeKind) (plain : ∀ part ∈ parts, IsPlain part) :
    List.Forall₂ Encodes (parts.map (segmentOf kind)) parts := by
  rw [List.forall₂_map_left_iff, List.forall₂_same]
  exact fun part listed =>
    encodes_segmentOf_iff.mpr (unbroken_eq_iff.mpr (plain part listed).unbroken)

/-- An address that a request reaches has plain parts only. -/
theorem Reaches.isPlain (reaches : u.Reaches ("project" :: rest)) (carries : u.segments = some base)
    (plain : ∀ s ∈ base, Slashless s) :
    baseSegments base ≠ [""] ∧ ∀ part ∈ rest, IsPlain part := by
  obtain ⟨base', segments, carries', encodes, same⟩ := reaches
  cases Option.some.inj (carries'.symm.trans carries)
  rw [target_eq carries] at same
  have slashless : ∀ s ∈ baseSegments base ++ segments, Slashless s := by
    refine List.forall_mem_append.mpr ⟨baseSegments_slashless plain, fun s member => ?_⟩
    exact slashless_of_forall₂ encodes s member
  have notEmpty : baseSegments base ++ segments ≠ [""] := by
    cases encodes with
    | cons first later =>
        intro same
        rcases List.append_eq_singleton_iff.mp same with ⟨-, alone⟩ | ⟨-, none⟩
        · rw [List.head_eq_of_cons_eq alone] at first
          exact absurd first.reads (by decide)
        · cases none
  have path := targetSegments_inj plain slashless notEmpty same
  -- The path has a segment for each part, so no part can have been lost.
  obtain ⟨bound, exact⟩ := foldl_pushPart (schemeKind u.scheme.toList) ("project" :: rest)
    (rooted (baseSegments base))
  rw [← targetSegments, path, List.length_append, encodes.length_eq] at bound exact
  have notRoot : baseSegments base ≠ [""] := by
    intro root
    rw [root] at bound
    have short : (rooted [""]).length = 0 := rfl
    rw [short, List.length_singleton, List.length_cons] at bound
    omega
  rw [rooted_of_ne notRoot] at exact
  obtain ⟨segments', split, lefts⟩ := exact rfl
  rw [List.append_cancel_left split] at encodes
  exact ⟨notRoot, (List.forall_mem_cons.mp (isPlain_of_forall₂ lefts encodes)).2⟩

/-- An address of plain parts is reached. -/
theorem reaches_of_plain (carries : u.segments = some base) (notRoot : baseSegments base ≠ [""])
    (plain : ∀ part ∈ rest, IsPlain part) : u.Reaches ("project" :: rest) := by
  refine ⟨base, _, carries,
    encodes_of_plain (schemeKind u.scheme.toList)
      (List.forall_mem_cons.mpr ⟨isPlain_project, plain⟩), ?_⟩
  rw [target_eq carries, targetSegments_of_plain plain, rooted_of_ne notRoot]

/-- Texts that are written as the same segments are the same, if they are plain. -/
theorem eq_of_map_segmentOf {kind : SchemeKind} {other : List String}
    (plain : ∀ part ∈ parts, IsPlain part) (plain' : ∀ part ∈ other, IsPlain part)
    (same : parts.map (segmentOf kind) = other.map (segmentOf kind)) : parts = other := by
  have encodes := encodes_of_plain kind plain
  have encodes' := encodes_of_plain kind plain'
  rw [same] at encodes
  have unique : Relator.RightUnique Encodes := fun _ _ _ => Encodes.part_eq
  exact unique.forall₂ encodes encodes'

/-- No two addresses of plain parts share a target. -/
theorem target_inj {other : List String} (carries : u.segments = some base)
    (slashless : ∀ s ∈ base, Slashless s) (plain : ∀ part ∈ rest, IsPlain part)
    (plain' : ∀ part ∈ other, IsPlain part)
    (same : u.target ("project" :: rest) = u.target ("project" :: other)) : rest = other := by
  rw [target_eq carries, target_eq carries] at same
  obtain ⟨slashless', notEmpty⟩ :=
    targetSegments_slashless u ("project" :: other) slashless
  have paths := targetSegments_inj slashless slashless' notEmpty same
  rw [targetSegments_of_plain plain, targetSegments_of_plain plain'] at paths
  exact eq_of_map_segmentOf plain plain'
    (List.cons.inj (List.append_cancel_left paths)).2

/-- **Requests reach what they are for**, as long as its name is plain.  Let an address begin with
the part that all addresses begin with, and let its other parts be any texts.  A request for it goes
to the base path, less an empty segment at its end, followed by one segment for each part from which
the part is read back, exactly if none of the parts is `.` or `..` or has a tab or a line break in
it, and the base path is not that of two empty segments.  And two addresses of such parts share a
target only if they are the same. -/
theorem reaches_iff {text : String} (parsed : parseBase text = .ok u) :
    (u.Reaches ("project" :: rest) ↔
      u.segments ≠ some ["", ""] ∧ ∀ part ∈ rest, IsPlain part) ∧
    ((∀ part ∈ rest, IsPlain part) → ∀ other : List String, (∀ part ∈ other, IsPlain part) →
      u.target ("project" :: rest) = u.target ("project" :: other) → rest = other) := by
  obtain ⟨base, carries, slashless⟩ := segments_of_parseBase parsed
  have root : u.segments ≠ some ["", ""] ↔ baseSegments base ≠ [""] := by
    rw [carries, ne_eq, Option.some.injEq, ne_eq, baseSegments_eq_iff]
  rw [root]
  refine ⟨⟨fun reaches => reaches.isPlain carries slashless, ?_⟩, ?_⟩
  · rintro ⟨notRoot, plain⟩
    exact reaches_of_plain carries notRoot plain
  · intro plain other plain' same
    exact target_inj carries slashless plain plain' same

end Reaches

/-- A base URL with a path of its own. -/
def versioned : Url := ⟨"https", some ["v1", ""], "", none, none⟩

theorem parseBase_versioned : parseBase "https://api.example.com/v1/" = .ok versioned := by
  decide +kernel

/-- A topic with a slash and a space in its name is reached, one whose name is two dots is not. -/
theorem reaches_iff_topic :
    versioned.Reaches (ControlPlane.topicPath "acme" "events" "a/b c") ∧
      ¬ versioned.Reaches (ControlPlane.topicPath "acme" "events" "..") := by
  have named (topic : String) : versioned.Reaches (ControlPlane.topicPath "acme" "events" topic) ↔
      versioned.segments ≠ some ["", ""] ∧
        ∀ part ∈ ["acme", "service", "events", "topic", topic], IsPlain part :=
    (reaches_iff parseBase_versioned).1
  constructor
  · refine (named "a/b c").mpr ⟨by decide, ?_⟩
    simp only [List.forall_mem_cons]
    refine ⟨?_, ?_, ?_, ?_, ?_, by simp⟩
    all_goals exact ⟨by decide, by decide, by simp⟩
  · intro reaches
    have plain := ((named "..").mp reaches).2 ".." (by simp)
    exact plain.above rfl

/-- A topic may have the target of all topics. -/
theorem target_not_injective :
    ¬ ∀ (text : String) (u : Url) (project service topic : String), parseBase text = .ok u →
      u.target (ControlPlane.topicPath project service topic) ≠
        u.target (ControlPlane.servicePath project service ++ ["topic"]) := by
  intro apart
  refine apart _ versioned "acme" "events" ".." parseBase_versioned ?_
  decide

end Url

end ServiceOperator
