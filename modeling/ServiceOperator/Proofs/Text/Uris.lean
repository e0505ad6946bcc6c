import ServiceOperator.Proofs.Text.Paths
import ServiceOperator.Proofs.Text.Trimming

/-!
# Texts in URIs

A URI holds texts apart by delimiters, and by percent escapes for what might be taken for one.  Here
a URI is read by its generic syntax (`Uri.parse?`), as far as it has a user, a password and a port.
Of texts that are pasted between the delimiters without escapes, all are read back if and only if
none has a delimiter that would end a piece early, and none has what looks like an escape
(`UriPieces.reads_paste_iff`).

That nothing else is read back is a matter of size.  A text is never longer than the piece that it
is read from.  Where a delimiter cuts the pieces short, together they are shorter than the texts.

### The size argument

To refute that pieces are read back from a paste that cuts them elsewhere, one would have to follow
each cut, and there are as many ways to cut as there are delimiters in the pieces.  Counting avoids
that.  What is read from a piece has at most as many bytes as the piece, and all pieces together
have the bytes of the paste less its delimiters.  If everything is read back, no piece can be
shorter than its text, so none can be longer either, and the cuts fall where they should
(`eq_of_append_delimiter`).
-/

namespace ServiceOperator

open Text

/-- The pieces of a URI with a user, a password and a port, as they stand in it. -/
structure UriPieces where
  user : List Char
  password : List Char
  host : List Char
  port : List Char
  /-- The path, without the slash at its start. -/
  path : List Char
  deriving DecidableEq

namespace Uri

/-- A character that ends an authority. -/
def endsAuthority (c : Char) : Bool := c = '/' || c = '?' || c = '#'

/-- A character that ends a path. -/
def endsPath (c : Char) : Bool := c = '?' || c = '#'

/-- What is before the first character of a text that is `c`, and what is behind it. -/
def cutFirst (c : Char) : List Char → Option (List Char × List Char)
  | [] => none
  | d :: cs => if d = c then some ([], cs) else (cutFirst c cs).map fun cut => (d :: cut.1, cut.2)

/-- What is before the last character of a text that is `c`, and what is behind it. -/
def cutLast (c : Char) (cs : List Char) : Option (List Char × List Char) :=
  (cutFirst c cs.reverse).map fun cut => (cut.2.reverse, cut.1.reverse)

/-- A host and its port.  The colons of a host in brackets are its own. -/
def cutHost (cs : List Char) : Option (List Char × List Char) :=
  match cs with
  | '[' :: rest =>
    match cutFirst ']' rest with
    | some (literal, ':' :: port) => some ('[' :: literal ++ [']'], port)
    | _ => none
  | _ => cutFirst ':' cs

/-- The pieces behind the two slashes of a URI: the authority, with the user and the password before
its last `@`, and the path. -/
def pieces? (cs : List Char) : Option UriPieces := do
  let (info, place) ← cutLast '@' (cs.takeWhile fun c => !endsAuthority c)
  let (user, password) ← cutFirst ':' info
  let (host, port) ← cutHost place
  match cs.dropWhile fun c => !endsAuthority c with
  | '/' :: rest => some ⟨user, password, host, port, rest.takeWhile fun c => !endsPath c⟩
  | _ => none

/-- The pieces of a URI. -/
def parse? (cs : List Char) : Option UriPieces :=
  match cutFirst ':' cs with
  | some (_, '/' :: '/' :: rest) => pieces? rest
  | _ => none

/-! ## Cutting -/

variable {c : Char} {cs ds before behind : List Char} {p : Char → Bool}

/-- A text is cut at the first occurrence of a character. -/
theorem cutFirst_eq_some_iff :
    cutFirst c cs = some (before, behind) ↔ cs = before ++ c :: behind ∧ c ∉ before := by
  induction cs generalizing before with
  | nil => simp [cutFirst]
  | cons d cs ih =>
      by_cases same : d = c
      · subst same
        rw [cutFirst, if_pos rfl, Option.some.injEq, Prod.mk.injEq]
        constructor
        · rintro ⟨rfl, rfl⟩
          exact ⟨rfl, List.not_mem_nil⟩
        · rintro ⟨split, free⟩
          cases before with
          | nil => exact ⟨rfl, (List.cons.inj split).2⟩
          | cons e before => exact absurd ((List.cons.inj split).1 ▸ List.mem_cons_self) free
      · rw [cutFirst, if_neg same, Option.map_eq_some_iff]
        constructor
        · rintro ⟨⟨x, y⟩, cut, same'⟩
          obtain ⟨rfl, rfl⟩ := Prod.mk.inj same'
          obtain ⟨rfl, free⟩ := ih.mp cut
          exact ⟨rfl, List.not_mem_cons_of_ne_of_not_mem (Ne.symm same) free⟩
        · rintro ⟨split, free⟩
          cases before with
          | nil => exact absurd (List.cons.inj split).1 same
          | cons e before =>
              obtain ⟨rfl, rfl⟩ := List.cons.inj split
              exact ⟨_, ih.mpr ⟨rfl, fun member => free (List.mem_cons_of_mem _ member)⟩, rfl⟩

/-- A text is cut at the last occurrence of a character. -/
theorem cutLast_eq_some_iff :
    cutLast c cs = some (before, behind) ↔ cs = before ++ c :: behind ∧ c ∉ behind := by
  have turned :
      cs.reverse = behind.reverse ++ c :: before.reverse ↔ cs = before ++ c :: behind := by
    rw [← List.reverse_inj]
    simp
  rw [cutLast, Option.map_eq_some_iff]
  constructor
  · rintro ⟨⟨x, y⟩, cut, same⟩
    obtain ⟨rfl, rfl⟩ := Prod.mk.inj same
    obtain ⟨split, free⟩ := cutFirst_eq_some_iff.mp cut
    exact ⟨turned.mp (by simpa using split), by simpa using free⟩
  · rintro ⟨split, free⟩
    exact ⟨(behind.reverse, before.reverse),
      cutFirst_eq_some_iff.mpr ⟨turned.mpr split, by simpa using free⟩, by simp⟩

/-- A host that ends at its own end: one in brackets, or one without colons. -/
def IsHost (host : List Char) : Prop :=
  (∃ literal, host = '[' :: literal ++ [']'] ∧ ']' ∉ literal) ∨ host.head? ≠ some '[' ∧ ':' ∉ host

/-- A host is cut from its port where the host ends by itself. -/
theorem cutHost_eq_some_iff :
    cutHost cs = some (before, behind) ↔ cs = before ++ ':' :: behind ∧ IsHost before := by
  -- In brackets the host ends at the bracket, and otherwise at the first colon.
  by_cases bracket : cs.head? = some '['
  · obtain ⟨rest, rfl⟩ := List.head?_eq_some_iff.mp bracket
    constructor
    · intro cut
      rw [cutHost] at cut
      split at cut
      case h_1 literal port found =>
        obtain ⟨rfl, rfl⟩ := Prod.mk.inj (Option.some.inj cut)
        obtain ⟨rfl, free⟩ := cutFirst_eq_some_iff.mp found
        exact ⟨by simp, .inl ⟨literal, rfl, free⟩⟩
      case h_2 => cases cut
    · rintro ⟨split, ⟨literal, rfl, free⟩ | ⟨unbracketed, -⟩⟩
      · have found : cutFirst ']' rest = some (literal, ':' :: behind) :=
          cutFirst_eq_some_iff.mpr ⟨by simpa using split, free⟩
        simp only [cutHost, found]
      · cases before with
        | nil => cases (List.cons.inj split).1
        | cons e before => exact absurd (congrArg some (List.cons.inj split).1.symm) unbracketed
  · have plain : cutHost cs = cutFirst ':' cs := by
      unfold cutHost
      split
      · exact absurd rfl bracket
      · rfl
    rw [plain, cutFirst_eq_some_iff]
    refine and_congr_right fun split => ?_
    subst split
    have unbracketed : before.head? ≠ some '[' := by
      cases before with
      | nil => simp
      | cons e before => exact bracket
    constructor
    · exact fun free => .inr ⟨unbracketed, free⟩
    · rintro (⟨literal, rfl, -⟩ | ⟨-, free⟩)
      · exact absurd rfl unbracketed
      · exact free

/-- A text is cut before its first character of a kind. -/
theorem span_iff : cs.takeWhile (fun c => !p c) = before ∧ cs.dropWhile (fun c => !p c) = behind ↔
    cs = before ++ behind ∧ (∀ c ∈ before, p c = false) ∧ ∀ c ∈ behind.head?, p c = true := by
  rw [Text.span_iff]
  simp only [Bool.not_eq_true', Bool.not_eq_false']

end Uri

/-! ## Pieces -/

open Uri

namespace UriPieces

/-- The authority that pieces make up. -/
def authority (x : UriPieces) : List Char :=
  (x.user ++ ':' :: x.password) ++ '@' :: (x.host ++ ':' :: x.port)

/-- No piece has a delimiter that would end it early, or the authority that it is in. -/
structure Delimited (x : UriPieces) : Prop where
  authority : ∀ c ∈ x.authority, endsAuthority c = false
  user : ':' ∉ x.user
  place : '@' ∉ x.host ++ ':' :: x.port
  host : IsHost x.host
  path : ∀ c ∈ x.path, endsPath c = false

end UriPieces

/-- The pieces that are read are those that the text is made of, as far as delimiters go. -/
theorem Uri.pieces?_eq_some_iff {cs : List Char} {x : UriPieces} : pieces? cs = some x ↔
    x.Delimited ∧ ∃ tail, cs = x.authority ++ '/' :: (x.path ++ tail) ∧
      ∀ c ∈ tail.head?, endsPath c = true := by
  constructor
  · intro read
    simp only [pieces?, bind, Option.bind_eq_some_iff, Prod.exists] at read
    obtain ⟨info, place, cutInfo, user, password, cutUser, host, port, cutPlace, read⟩ := read
    split at read
    case h_1 rest slash =>
      cases read
      -- Each cut is undone, from the inside to the outside.
      obtain ⟨joined, inside⟩ := cutLast_eq_some_iff.mp cutInfo
      obtain ⟨rfl, userFree⟩ := cutFirst_eq_some_iff.mp cutUser
      obtain ⟨rfl, isHost⟩ := cutHost_eq_some_iff.mp cutPlace
      obtain ⟨whole, free, -⟩ := span_iff.mp ⟨joined, slash⟩
      obtain ⟨path, pathFree, stops⟩ := span_iff.mp ⟨rfl, rfl⟩
      refine ⟨⟨free, userFree, inside, isHost, pathFree⟩, _, ?_, stops⟩
      rw [whole, ← path]
      rfl
    case h_2 => cases read
  · rintro ⟨delimited, tail, rfl, stops⟩
    obtain ⟨authority, slash⟩ := span_iff.mpr ⟨rfl, delimited.authority,
      (by simp [endsAuthority] : ∀ c ∈ ('/' :: (x.path ++ tail)).head?, endsAuthority c = true)⟩
    have cutPlace := cutLast_eq_some_iff.mpr ⟨authority, delimited.place⟩
    have cutUser : cutFirst ':' (x.user ++ ':' :: x.password) = some (x.user, x.password) :=
      cutFirst_eq_some_iff.mpr ⟨rfl, delimited.user⟩
    have cutHost : cutHost (x.host ++ ':' :: x.port) = some (x.host, x.port) :=
      cutHost_eq_some_iff.mpr ⟨rfl, delimited.host⟩
    have path := (span_iff.mpr ⟨rfl, delimited.path, stops⟩).1
    simp only [pieces?, cutPlace, Option.bind_eq_bind, Option.bind_some, cutUser, cutHost, slash,
      path]

theorem Uri.parse?_behind_scheme {scheme rest : List Char} (free : ':' ∉ scheme) :
    parse? (scheme ++ ':' :: '/' :: '/' :: rest) = pieces? rest := by
  have cut := cutFirst_eq_some_iff.mpr
    ⟨(rfl : scheme ++ ':' :: '/' :: '/' :: rest = scheme ++ ':' :: ('/' :: '/' :: rest)), free⟩
  simp only [parse?, cut]

/-! ## Escapes -/

namespace Text

variable {cs ds : List Char} {c : Char}

/-- Nothing in a text looks like an escape. -/
def Unescaped (cs : List Char) : Prop :=
  ∀ a b, ['%', a, b] <:+: cs → hexValue? a = none ∨ hexValue? b = none

/-- A character that begins no escape has no part in whether there are any. -/
theorem unescaped_cons_iff
    (here : ∀ a b, ['%', a, b] <+: c :: cs → hexValue? a = none ∨ hexValue? b = none) :
    Unescaped (c :: cs) ↔ Unescaped cs := by
  constructor
  · exact fun whole a b inside => whole a b (inside.trans (List.suffix_cons c cs).isInfix)
  · intro rest a b inside
    rcases List.infix_cons_iff.mp inside with first | later
    · exact here a b first
    · exact rest a b later

theorem unescaped_of_not_mem (free : '%' ∉ cs) : Unescaped cs :=
  fun _ _ inside => absurd (inside.subset List.mem_cons_self) free

theorem utf8Bytes_append : utf8Bytes (cs ++ ds) = utf8Bytes cs ++ utf8Bytes ds :=
  List.flatMap_append

theorem utf8Bytes_cons : utf8Bytes (c :: cs) = String.utf8EncodeChar c ++ utf8Bytes cs :=
  List.flatMap_cons

/-- The number of bytes of a text. -/
abbrev byteCount (cs : List Char) : Nat := (utf8Bytes cs).length

/-- Either a text has no escapes and is read as it stands, or it has some and less is read. -/
def ReadByEscapes (cs : List Char) : Prop :=
  Unescaped cs ∧ percentDecode cs = utf8Bytes cs ∨
    ¬ Unescaped cs ∧ (percentDecode cs).length < byteCount cs

/-- A character that does not begin an escape is read as it stands. -/
theorem ReadByEscapes.cons (rest : ReadByEscapes cs)
    (here : ∀ a b, ['%', a, b] <+: c :: cs → hexValue? a = none ∨ hexValue? b = none)
    (reads : percentDecode (c :: cs) = String.utf8EncodeChar c ++ percentDecode cs) :
    ReadByEscapes (c :: cs) := by
  unfold ReadByEscapes
  rw [unescaped_cons_iff here, reads, byteCount, utf8Bytes_cons, List.length_append,
    List.length_append]
  exact rest.imp (And.imp_right (congrArg _)) (And.imp_right (Nat.add_lt_add_left · _))

theorem ReadByEscapes.length_le (read : ReadByEscapes cs) :
    (percentDecode cs).length ≤ byteCount cs := by
  rcases read with ⟨-, same⟩ | ⟨-, less⟩
  · exact Nat.le_of_eq (congrArg _ same)
  · exact Nat.le_of_lt less

/-- **Every text is read by its escapes**: as it stands if it has none, and as something shorter
if it has some. -/
theorem readByEscapes (cs : List Char) : ReadByEscapes cs := by
  induction cs using percentDecode.induct with
  | case1 => exact .inl ⟨fun a b inside => by simpa using inside.length_le, rfl⟩
  | case2 a b rest hi lo loValue hiValue ih =>
      -- An escape has three characters and makes one byte.
      refine .inr ⟨fun whole => ?_, ?_⟩
      · rcases whole a b ⟨[], rest, rfl⟩ with none | none
        · cases hiValue.symm.trans none
        · cases loValue.symm.trans none
      · have shorter := ih.length_le
        have first := a.utf8Size_pos
        have second := b.utf8Size_pos
        simp only [percentDecode, hiValue, loValue, byteCount, utf8Bytes_cons, List.length_cons,
          List.length_append, String.length_utf8EncodeChar] at shorter ⊢
        omega
  | case3 a b rest other ih =>
      refine ih.cons (fun x y first => ?_) ?_
      · obtain ⟨rfl, rfl⟩ : x = a ∧ y = b := by simpa using first
        cases hiValue : hexValue? x with
        | none => exact .inl rfl
        | some hi =>
            cases loValue : hexValue? y with
            | none => exact .inr rfl
            | some lo => exact (other hi lo hiValue loValue).elim
      · rw [percentDecode]
        split
        case h_1 hi lo hiValue loValue => exact (other hi lo hiValue loValue).elim
        case h_2 => rfl
  | case4 c rest other ih =>
      refine ih.cons (fun x y first => ?_) ?_
      · obtain ⟨tail, same⟩ := first
        exact (other x y tail (List.cons.inj same).1.symm (List.cons.inj same).2.symm).elim
      · rw [percentDecode]
        exact other

/-- A text is not longer than the piece that it is read from.  If it is as long, it is that piece,
without escapes. -/
theorem byteCount_le_of_reads (reads : percentDecode cs = utf8Bytes ds) :
    byteCount ds ≤ byteCount cs ∧ (byteCount cs ≤ byteCount ds → cs = ds ∧ Unescaped ds) := by
  rw [byteCount, byteCount, ← reads]
  rcases readByEscapes cs with ⟨free, same⟩ | ⟨-, less⟩
  · have equal : cs = ds := utf8Bytes_inj (same.symm.trans reads)
    exact ⟨Nat.le_of_eq (congrArg _ same), fun _ => ⟨equal, equal ▸ free⟩⟩
  · exact ⟨Nat.le_of_lt less, fun long => absurd less (Nat.not_lt.mpr long)⟩

theorem byteCount_append : byteCount (cs ++ ds) = byteCount cs + byteCount ds := by
  rw [byteCount, utf8Bytes_append, List.length_append]

theorem byteCount_cons : byteCount (c :: cs) = c.utf8Size + byteCount cs := by
  rw [byteCount, utf8Bytes_cons, List.length_append, String.length_utf8EncodeChar]

theorem eq_nil_of_byteCount (none : byteCount cs = 0) : cs = [] := by
  cases cs with
  | nil => rfl
  | cons c cs =>
      rw [byteCount_cons] at none
      exact absurd none (Nat.ne_of_gt (Nat.add_pos_left c.utf8Size_pos _))

/-- The piece before a delimiter, if it is long enough, is the text that the delimiter was put
behind. -/
theorem eq_of_append_delimiter {before behind : List Char} (same : cs ++ before = ds ++ c :: behind)
    (free : c ∉ cs) (long : byteCount ds ≤ byteCount cs) : cs = ds := by
  rcases List.append_eq_append_iff.mp same with ⟨rest, rfl, -⟩ | ⟨rest, rfl, split⟩
  · have nothing : rest = [] := eq_nil_of_byteCount (by rw [byteCount_append] at long; omega)
    rw [nothing, List.append_nil]
  · cases rest with
    | nil => rw [List.append_nil]
    | cons d rest =>
        obtain ⟨rfl, -⟩ := List.cons.inj split
        exact absurd (List.mem_append_right _ List.mem_cons_self) free

end Text

/-! ## Reading back -/

namespace UriPieces

/-- What is read from pieces is the text of other ones. -/
structure Reads (x y : UriPieces) : Prop where
  user : percentDecode x.user = utf8Bytes y.user
  password : percentDecode x.password = utf8Bytes y.password
  host : percentDecode x.host = utf8Bytes y.host
  port : percentDecode x.port = utf8Bytes y.port
  path : percentDecode x.path = utf8Bytes y.path

/-- Pieces stand for themselves: none has a delimiter that would end it early, and none has what
looks like an escape. -/
structure Plain (x : UriPieces) : Prop where
  delimited : x.Delimited
  user : Unescaped x.user
  password : Unescaped x.password
  host : Unescaped x.host
  port : Unescaped x.port
  path : Unescaped x.path

/-- Pieces pasted between delimiters, with a query behind them. -/
def paste (x : UriPieces) (query : List Char) : List Char :=
  x.authority ++ '/' :: (x.path ++ '?' :: query)

variable {x y : UriPieces} {query tail : List Char}

/-- The bytes of an authority are those of its pieces and of the three delimiters between them. -/
theorem byteCount_authority (x : UriPieces) : byteCount x.authority =
    byteCount x.user + byteCount x.password + byteCount x.host + byteCount x.port + 3 := by
  have colon : ':'.utf8Size = 1 := rfl
  have atSign : '@'.utf8Size = 1 := rfl
  simp only [authority, byteCount_append, byteCount_cons, colon, atSign]
  omega

theorem Plain.reads (plain : x.Plain) : x.Reads x := by
  have whole {cs : List Char} (free : Unescaped cs) : percentDecode cs = utf8Bytes cs :=
    ((readByEscapes cs).resolve_right fun escaped => escaped.1 free).2
  exact ⟨whole plain.user, whole plain.password, whole plain.host, whole plain.port,
    whole plain.path⟩

/-- What is read back from a text that pieces were pasted into is these pieces. -/
theorem Reads.plain (reads : x.Reads y) (delimited : x.Delimited)
    (pasted : y.paste query = x.authority ++ '/' :: (x.path ++ tail)) : y.Plain := by
  obtain ⟨userLe, user⟩ := byteCount_le_of_reads reads.user
  obtain ⟨passwordLe, password⟩ := byteCount_le_of_reads reads.password
  obtain ⟨hostLe, host⟩ := byteCount_le_of_reads reads.host
  obtain ⟨portLe, port⟩ := byteCount_le_of_reads reads.port
  obtain ⟨pathLe, path⟩ := byteCount_le_of_reads reads.path
  have size := byteCount_authority x
  have size' := byteCount_authority y
  -- No delimiter cuts the authority short, since the pieces in it are long enough.
  have authority : x.authority = y.authority := by
    refine eq_of_append_delimiter pasted.symm (fun slash => ?_) (by omega)
    cases delimited.authority '/' slash
  have behind : x.path ++ tail = y.path ++ '?' :: query := by
    rw [paste, authority] at pasted
    exact (List.cons.inj (List.append_cancel_left pasted)).2.symm
  have samePath : x.path = y.path := by
    refine eq_of_append_delimiter behind (fun mark => ?_) pathLe
    cases delimited.path '?' mark
  -- So no piece is longer than the text that is read from it.
  rw [authority] at size
  obtain ⟨sameUser, user⟩ := user (by omega)
  obtain ⟨samePassword, password⟩ := password (by omega)
  obtain ⟨sameHost, host⟩ := host (by omega)
  obtain ⟨samePort, port⟩ := port (by omega)
  obtain ⟨-, path⟩ := path (Nat.le_of_eq (congrArg _ samePath))
  have same : x = y := by
    obtain ⟨⟩ := x
    obtain ⟨⟩ := y
    simp only [UriPieces.mk.injEq]
    exact ⟨sameUser, samePassword, sameHost, samePort, samePath⟩
  exact ⟨same ▸ delimited, user, password, host, port, path⟩

/-- **Pasted texts are read back if and only if they stand for themselves.** -/
theorem reads_paste_iff : (∃ y, pieces? (x.paste query) = some y ∧ y.Reads x) ↔ x.Plain := by
  constructor
  · rintro ⟨y, read, reads⟩
    obtain ⟨delimited, tail, pasted, -⟩ := pieces?_eq_some_iff.mp read
    exact reads.plain delimited pasted
  · intro plain
    exact ⟨x, pieces?_eq_some_iff.mpr ⟨plain.delimited, _, rfl, by simp [endsPath]⟩, plain.reads⟩

end UriPieces

end ServiceOperator
