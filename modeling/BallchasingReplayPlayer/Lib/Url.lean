import Mathlib.Data.List.Basic
import Mathlib.Data.List.TakeWhile
import Mathlib.Data.Option.Basic

/-!
# Generic URLs

Reading a URL by the generic grammar: scheme, authority, path, query and fragment are cut
apart at their delimiters, path and query are cut into segments and parameters, and each
piece is checked against its character class and percent-decoded. A string is read as its
bytes, so a percent-encoded byte decodes to the character with its number.

## Grammar

- a path segment holds unreserved characters, sub-delimiters, `:`, `@` and escapes `%XX`
- a query and a fragment may hold `/` and `?` as well
- the segments `.` and `..` are taken out of a path
- a parameter is a name and a value, cut at the first `=`

Registered names are read as hosts; IP literals in brackets are left out.

## Main Results

- `component_eq_some_of_length`: decoding that does not shorten a piece has changed nothing
- `Template.plain_of_decode`, `Template.decode_url`: which pieces come back from a URL they
  are pasted into
- `Template.equivalent_url_iff`: such pieces make up the same request only if they are equal
-/

namespace Url

/-- A string, as a list of characters that stand for its bytes. -/
abbrev Text := List Char

/-! ## Characters -/

/-- The value of a hexadecimal digit. -/
def hexValue (c : Char) : Option ℕ :=
  if '0' ≤ c ∧ c ≤ '9' then some (c.toNat - '0'.toNat)
  else if 'A' ≤ c ∧ c ≤ 'F' then some (c.toNat - 'A'.toNat + 10)
  else if 'a' ≤ c ∧ c ≤ 'f' then some (c.toNat - 'a'.toNat + 10)
  else none

/-- Letters, digits and the marks `-`, `.`, `_`, `~`. -/
def isUnreserved (c : Char) : Bool :=
  c.isAlphanum || c == '-' || c == '.' || c == '_' || c == '~'

/-- The sub-delimiters. -/
def isSubDelim (c : Char) : Bool := "!$&'()*+,;=".toList.contains c

/-- What a registered name may hold unescaped. -/
def isHostChar (c : Char) : Bool := isUnreserved c || isSubDelim c

/-- What a user name and its password may hold unescaped. -/
def isUserInfoChar (c : Char) : Bool := isHostChar c || c == ':'

/-- What a path segment may hold unescaped. -/
def isSegmentChar (c : Char) : Bool := isUserInfoChar c || c == '@'

/-- What a query or a fragment may hold unescaped. -/
def isQueryChar (c : Char) : Bool := isSegmentChar c || c == '/' || c == '?'

/-- What a scheme may hold behind its first letter. -/
def isSchemeChar (c : Char) : Bool := c.isAlphanum || c == '+' || c == '-' || c == '.'

/-! ## Percent-Decoding -/

/-- Every escape `%XX` is replaced by the character with that number; a `%` in front of
    anything else is an error. -/
def percentDecode : Text → Option Text
  | [] => some []
  | '%' :: high :: low :: rest =>
    match hexValue high, hexValue low with
    | some h, some l => (percentDecode rest).map (Char.ofNat (16 * h + l) :: ·)
    | _, _ => none
  | c :: rest => if c = '%' then none else (percentDecode rest).map (c :: ·)

/-- A piece of a URL: its characters are checked, then its escapes decoded. -/
def component (allowed : Char → Bool) (s : Text) : Option Text :=
  if s.all fun c => allowed c || c == '%' then percentDecode s else none

/-! ## Cutting -/

/-- The pieces of a URL, as they are written. -/
structure Parts where
  scheme : Text
  authority : Text
  path : Text
  query : Option Text
  fragment : Option Text
deriving DecidableEq, Repr

/-- What ends a path. -/
def isPathEnd (c : Char) : Bool := c == '?' || c == '#'

/-- What ends an authority. -/
def isAuthorityEnd (c : Char) : Bool := c == '/' || isPathEnd c

/-- The query in what stands behind an authority. -/
def queryOf (s : Text) : Option Text :=
  match s.dropWhile (!isPathEnd ·) with
  | '?' :: query => some (query.takeWhile (· != '#'))
  | _ => none

/-- The fragment in what stands behind an authority. -/
def fragmentOf (s : Text) : Option Text :=
  match s.dropWhile (· != '#') with
  | _ :: fragment => some fragment
  | [] => none

/-- Cuts a URL with an authority apart. -/
def parts (s : Text) : Option Parts :=
  match s.dropWhile (· != ':') with
  | ':' :: '/' :: '/' :: rest =>
    let behind := rest.dropWhile (!isAuthorityEnd ·)
    some
      { scheme := s.takeWhile (· != ':')
        authority := rest.takeWhile (!isAuthorityEnd ·)
        path := behind.takeWhile (!isPathEnd ·)
        query := queryOf behind
        fragment := fragmentOf behind }
  | _ => none

/-! ## Decoding -/

/-- The segment `.`. -/
def dot : Text := ['.']

/-- The segment `..`. -/
def dotDot : Text := ['.', '.']

/-- Takes the dot segments out of a path, read from the segments `above` (nearest first). A
    dot segment at the end leaves an empty segment. -/
def removeDots : List Text → List Text → List Text
  | above, [] => above.reverse
  | above, [segment] =>
    if segment = dot then ([] :: above).reverse
    else if segment = dotDot then ([] :: above.tail).reverse
    else (segment :: above).reverse
  | above, segment :: next :: rest =>
    if segment = dot then removeDots above (next :: rest)
    else if segment = dotDot then removeDots above.tail (next :: rest)
    else removeDots (segment :: above) (next :: rest)

/-- A host, with the user and the port in front of and behind it. -/
structure Authority where
  userInfo : Option Text
  host : Text
  port : Option Text
deriving DecidableEq, Repr

def decodeAuthority (s : Text) : Option Authority := do
  let hostPort := if '@' ∈ s then (s.dropWhile (· != '@')).tail else s
  let userInfo ←
    if '@' ∈ s then (component isUserInfoChar (s.takeWhile (· != '@'))).map some
    else some none
  let host ← component isHostChar (hostPort.takeWhile (· != ':'))
  let port ←
    match hostPort.dropWhile (· != ':') with
    | _ :: port => if port.all Char.isDigit then some (some port) else none
    | [] => some none
  return ⟨userInfo, host, port⟩

/-- The decoded segments of a path, without dot segments. -/
def decodePath (path : Text) : Option (List Text) :=
  ((path.splitOnP (· == '/')).tail.mapM (component isSegmentChar)).map (removeDots [])

/-- A name and its value. -/
def decodeParameter (s : Text) : Option (Text × Text) := do
  let name ← component isQueryChar (s.takeWhile (· != '='))
  let value ← component isQueryChar (s.dropWhile (· != '=')).tail
  return (name, value)

/-- The parameters of a query. -/
def decodeQuery : Option Text → Option (List (Text × Text))
  | none => some []
  | some query => (query.splitOnP (· == '&')).mapM decodeParameter

def decodeFragment : Option Text → Option (Option Text)
  | none => some none
  | some fragment => (component isQueryChar fragment).map some

/-- What a URL says, read by the grammar. -/
structure Decoded where
  scheme : Text
  authority : Authority
  segments : List Text
  parameters : List (Text × Text)
  fragment : Option Text
deriving DecidableEq, Repr

def isScheme : Text → Bool
  | [] => false
  | c :: rest => c.isAlpha && rest.all isSchemeChar

def Parts.decode (p : Parts) : Option Decoded := do
  guard (isScheme p.scheme)
  let authority ← decodeAuthority p.authority
  let segments ← decodePath p.path
  let parameters ← decodeQuery p.query
  let fragment ← decodeFragment p.fragment
  return ⟨p.scheme, authority, segments, parameters, fragment⟩

/-- Reads a URL by the generic grammar. -/
def decode (s : Text) : Option Decoded := (parts s).bind Parts.decode

/-- Two URLs are those of one request: they say the same, up to the fragment, which is not
    sent. -/
def Equivalent (s t : Text) : Prop :=
  ∃ u v, decode s = some u ∧ decode t = some v ∧
    { u with fragment := none } = { v with fragment := none }

/-! ## Reading Back a Piece -/

theorem percentDecode_cons {c : Char} (hc : c ≠ '%') (s : Text) :
    percentDecode (c :: s) = (percentDecode s).map (c :: ·) := by
  rw [percentDecode]
  · rw [if_neg hc]
  · intro high low rest heq
    exact absurd heq hc

/-- A piece without escapes decodes to itself. -/
theorem percentDecode_of_forall {s : Text} (h : ∀ c ∈ s, c ≠ '%') :
    percentDecode s = some s := by
  induction s with
  | nil => rfl
  | cons c rest ih =>
    obtain ⟨hc, hrest⟩ := List.forall_mem_cons.mp h
    rw [percentDecode_cons hc, ih hrest]
    rfl

/-- Decoding does not lengthen a piece, and it keeps the length only of a piece without
    escapes. -/
theorem percentDecode_length {s t : Text} (h : percentDecode s = some t) :
    t.length ≤ s.length ∧ (s.length ≤ t.length → t = s ∧ ∀ c ∈ s, c ≠ '%') := by
  induction s using percentDecode.induct generalizing t with
  | case1 =>
    obtain rfl : [] = t := by simpa [percentDecode] using h
    simp
  | case2 high low rest v₁ v₂ hhigh hlow ih =>
    obtain ⟨u, hu, rfl⟩ : ∃ u, percentDecode rest = some u ∧ _ :: u = t := by
      simpa [percentDecode, hhigh, hlow] using h
    -- an escape is three characters in front of the decoding and one behind it
    have hlength := (ih hu).1
    constructor
    · simp only [List.length_cons]
      omega
    · intro hle
      simp only [List.length_cons] at hle
      omega
  | case3 high low rest hdigits =>
    -- behind the `%` stand no hexadecimal digits
    exfalso
    rw [percentDecode] at h
    split at h
    · rename_i v₁ v₂ hhigh hlow
      exact hdigits v₁ v₂ hhigh hlow
    · exact absurd h (by simp)
  | case4 rest hshape =>
    -- the piece ends less than two characters behind the `%`
    exfalso
    rw [percentDecode] at h
    · simp at h
    · exact hshape
  | case5 c rest hshape hc ih =>
    obtain ⟨u, hu, rfl⟩ : ∃ u, percentDecode rest = some u ∧ c :: u = t := by
      simpa [percentDecode_cons hc] using h
    obtain ⟨hlength, heq⟩ := ih hu
    refine ⟨Nat.succ_le_succ hlength, fun hle => ?_⟩
    obtain ⟨rfl, hrest⟩ := heq (Nat.le_of_succ_le_succ hle)
    exact ⟨rfl, List.forall_mem_cons.mpr ⟨hc, hrest⟩⟩

section Component

variable {allowed : Char → Bool}

/-- A character that is not allowed is not there. -/
theorem ne_of_all {s : Text} (h : s.all allowed = true) {d : Char} (hd : allowed d = false) :
    ∀ c ∈ s, c ≠ d := by
  rintro c hc rfl
  rw [List.all_eq_true.mp h c hc] at hd
  exact Bool.noConfusion hd

/-- Reading up to a character that is not allowed goes on to the end. -/
theorem bne_of_all {s : Text} (h : s.all allowed = true) {d : Char} (hd : allowed d = false) :
    ∀ c ∈ s, (c != d) = true :=
  fun c hc => bne_iff_ne.mpr (ne_of_all h hd c hc)

/-- A character that is not allowed cuts nothing. -/
theorem beq_of_all {s : Text} (h : s.all allowed = true) {d : Char} (hd : allowed d = false) :
    ∀ c ∈ s, (c == d) = false :=
  fun c hc => beq_eq_false_iff_ne.mpr (ne_of_all h hd c hc)

/-- What may stand unescaped decodes to itself. -/
theorem component_of_forall (hescape : allowed '%' = false) {s : Text}
    (h : ∀ c ∈ s, allowed c = true) : component allowed s = some s := by
  have hall : (s.all fun c => allowed c || c == '%') = true := by
    rw [List.all_eq_true]
    intro c hc
    simp [h c hc]
  rw [component, if_pos hall]
  apply percentDecode_of_forall
  intro c hc heq
  subst heq
  simp [h _ hc] at hescape

theorem length_le_of_component {s t : Text} (h : component allowed s = some t) :
    t.length ≤ s.length := by
  unfold component at h
  split_ifs at h
  exact (percentDecode_length h).1

/-- A piece that decoding does not shorten stands there as it is. -/
theorem component_eq_some_of_length {s t : Text} (h : component allowed s = some t)
    (hle : s.length ≤ t.length) : t = s ∧ ∀ c ∈ s, allowed c = true := by
  unfold component at h
  split_ifs at h with hall
  obtain ⟨rfl, hescape⟩ := (percentDecode_length h).2 hle
  refine ⟨rfl, fun c hc => ?_⟩
  have hc' := List.all_eq_true.mp hall c hc
  simpa [hescape c hc] using hc'

end Component

section Split

variable {α : Type*} {p : α → Bool}

theorem takeWhile_append_stop {l : List α} {a : α} (hl : ∀ b ∈ l, p b = true) (ha : p a = false)
    (l' : List α) : (l ++ a :: l').takeWhile p = l := by
  rw [List.takeWhile_append_of_pos hl, List.takeWhile_cons_of_neg (by simp [ha]),
    List.append_nil]

theorem takeWhile_append_cons {a : α} (ha : p a = false) (l l' : List α) :
    (l ++ a :: l').takeWhile p = l.takeWhile p := by
  induction l with
  | nil => simp [ha]
  | cons b l ih => simp only [List.cons_append, List.takeWhile_cons, ih]

theorem dropWhile_append_stop {l : List α} {a : α} (hl : ∀ b ∈ l, p b = true) (ha : p a = false)
    (l' : List α) : (l ++ a :: l').dropWhile p = a :: l' := by
  rw [List.dropWhile_append_of_pos hl, List.dropWhile_cons_of_neg (by simp [ha])]

theorem length_le_of_mem_splitOnP {l piece : List α} (h : piece ∈ l.splitOnP p) :
    piece.length ≤ l.length := by
  induction l generalizing piece with
  | nil =>
    rw [List.splitOnP_nil, List.mem_singleton] at h
    rw [h]
  | cons a l ih =>
    rw [List.splitOnP_cons_eq_if_modifyHead] at h
    split_ifs at h with ha
    · rcases List.mem_cons.mp h with rfl | h
      · exact Nat.zero_le _
      · exact Nat.le_succ_of_le (ih h)
    · -- the first character goes to the first piece
      obtain ⟨first, others, hsplit⟩ := List.exists_cons_of_ne_nil (List.splitOnP_ne_nil p l)
      rw [hsplit, List.modifyHead_cons] at h
      rcases List.mem_cons.mp h with rfl | h
      · exact Nat.succ_le_succ (ih (hsplit ▸ List.mem_cons_self))
      · exact Nat.le_succ_of_le (ih (hsplit ▸ List.mem_cons_of_mem _ h))

/-- A separator cuts a list into two shorter ones. -/
theorem splitOnP_eq_append_of_mem {l : List α} {a : α} (ha : a ∈ l) (hsep : p a = true) :
    ∃ before behind : List α, l.splitOnP p = before.splitOnP p ++ behind.splitOnP p ∧
      before.length < l.length ∧ behind.length < l.length := by
  obtain ⟨before, behind, rfl⟩ := List.append_of_mem ha
  refine ⟨before, behind, List.splitOnP_append_cons before behind hsep, ?_, ?_⟩
  · simp only [List.length_append, List.length_cons]
    omega
  · simp only [List.length_append, List.length_cons]
    omega

/-- A piece as long as the whole is the whole. -/
theorem not_sep_of_length_le_piece {l piece : List α} (h : piece ∈ l.splitOnP p)
    (hle : l.length ≤ piece.length) : ∀ a ∈ l, p a = false := by
  intro a ha
  by_contra hsep
  obtain ⟨before, behind, hsplit, hbefore, hbehind⟩ :=
    splitOnP_eq_append_of_mem ha (by simpa using hsep)
  rw [hsplit] at h
  rcases List.mem_append.mp h with h | h
  · exact absurd (hle.trans (length_le_of_mem_splitOnP h)) (Nat.not_le_of_lt hbefore)
  · exact absurd (hle.trans (length_le_of_mem_splitOnP h)) (Nat.not_le_of_lt hbehind)

/-- A list with one piece has no separator. -/
theorem not_sep_of_length_splitOnP {l : List α} (h : (l.splitOnP p).length = 1) :
    ∀ a ∈ l, p a = false := by
  intro a ha
  by_contra hsep
  obtain ⟨before, behind, hsplit, -, -⟩ :=
    splitOnP_eq_append_of_mem ha (by simpa using hsep)
  -- both sides have a piece
  have hbefore := List.length_pos_iff.mpr (List.splitOnP_ne_nil p before)
  have hbehind := List.length_pos_iff.mpr (List.splitOnP_ne_nil p behind)
  rw [hsplit, List.length_append] at h
  omega

end Split

/-! ## Reading Back a Path -/

/-- A segment that needs no escapes and is no dot segment. -/
def PlainSegment (x : Text) : Prop := x.all isSegmentChar = true ∧ x ≠ dot ∧ x ≠ dotDot

instance (x : Text) : Decidable (PlainSegment x) :=
  inferInstanceAs (Decidable (x.all isSegmentChar = true ∧ x ≠ dot ∧ x ≠ dotDot))

theorem plainSegment_nil : PlainSegment [] := by decide

theorem PlainSegment.component {x : Text} (h : PlainSegment x) :
    component isSegmentChar x = some x :=
  component_of_forall (by decide) (List.all_eq_true.mp h.1)

theorem removeDots_append {dirs rest : List Text} (hdirs : ∀ d ∈ dirs, PlainSegment d)
    (hrest : rest ≠ []) (above : List Text) :
    removeDots above (dirs ++ rest) = removeDots (dirs.reverse ++ above) rest := by
  induction dirs generalizing above with
  | nil => rfl
  | cons d dirs ih =>
    obtain ⟨⟨-, hdot, hdotDot⟩, hdirs⟩ := List.forall_mem_cons.mp hdirs
    -- something follows `d`, so it is not read as the last segment
    obtain ⟨next, others, hnext⟩ := List.exists_cons_of_ne_nil
      (show dirs ++ rest ≠ [] by simp [hrest])
    rw [List.cons_append, hnext, removeDots, if_neg hdot, if_neg hdotDot, ← hnext, ih hdirs]
    simp

/-- Taking out dot segments makes up no segment, except for the empty one at the end. -/
theorem mem_removeDots {above l : List Text} {x : Text} (h : x ∈ removeDots above l) :
    x = [] ∨ x ∈ above ∨ x ∈ l := by
  induction above, l using removeDots.induct with
  | case1 above => exact .inr (.inl (by simpa [removeDots] using h))
  | case2 above =>
    rw [removeDots, if_pos rfl, List.mem_reverse] at h
    rcases List.mem_cons.mp h with rfl | h
    · exact .inl rfl
    · exact .inr (.inl h)
  | case3 above hne =>
    rw [removeDots, if_neg hne, if_pos rfl, List.mem_reverse] at h
    rcases List.mem_cons.mp h with rfl | h
    · exact .inl rfl
    · exact .inr (.inl (List.mem_of_mem_tail h))
  | case4 above segment hdot hdotDot =>
    rw [removeDots, if_neg hdot, if_neg hdotDot, List.mem_reverse] at h
    rcases List.mem_cons.mp h with rfl | h
    · exact .inr (.inr List.mem_cons_self)
    · exact .inr (.inl h)
  | case5 above next rest ih =>
    rw [removeDots, if_pos rfl] at h
    rcases ih h with rfl | h | h
    · exact .inl rfl
    · exact .inr (.inl h)
    · exact .inr (.inr (List.mem_cons_of_mem _ h))
  | case6 above next rest hne ih =>
    rw [removeDots, if_neg hne, if_pos rfl] at h
    rcases ih h with rfl | h | h
    · exact .inl rfl
    · exact .inr (.inl (List.mem_of_mem_tail h))
    · exact .inr (.inr (List.mem_cons_of_mem _ h))
  | case7 above segment next rest hdot hdotDot ih =>
    -- the segment moves over to the segments above
    rw [removeDots, if_neg hdot, if_neg hdotDot] at h
    rcases ih h with rfl | h | h
    · exact .inl rfl
    · rcases List.mem_cons.mp h with rfl | h
      · exact .inr (.inr List.mem_cons_self)
      · exact .inr (.inl h)
    · exact .inr (.inr (List.mem_cons_of_mem _ h))

/-- The dot segments are no last segment. -/
theorem plain_of_removeDots_singleton {above dirs : List Text} {x : Text}
    (h : removeDots above [x] = dirs ++ [x]) : x ≠ dot ∧ x ≠ dotDot := by
  constructor
  · rintro rfl
    simp [removeDots, dot] at h
  · rintro rfl
    simp [removeDots, dot, dotDot] at h

theorem map_eq_of_mapM {α β : Type*} {f : α → Option β} {l : List α} {l' : List β}
    (h : l.mapM f = some l') : l.map f = l'.map some := by
  induction l generalizing l' with
  | nil =>
    obtain rfl : [] = l' := by simpa using h
    rfl
  | cons a l ih =>
    rw [List.mapM_cons] at h
    obtain ⟨b, hb, h⟩ := Option.bind_eq_some_iff.mp h
    obtain ⟨bs, hbs, h⟩ := Option.bind_eq_some_iff.mp h
    obtain rfl : b :: bs = l' := Option.some.inj h
    rw [List.map_cons, List.map_cons, hb, ih hbs]

theorem mapM_eq_some_of_forall {α : Type*} {f : α → Option α} {l : List α}
    (h : ∀ a ∈ l, f a = some a) : l.mapM f = some l := by
  induction l with
  | nil => rfl
  | cons a l ih =>
    obtain ⟨ha, hl⟩ := List.forall_mem_cons.mp h
    rw [List.mapM_cons, ha, ih hl]
    rfl

section Path

variable {dirs : List Text}

theorem splitOnP_dirs (hdirs : ∀ d ∈ dirs, PlainSegment d) (w : Text) {first : Text}
    (hfirst : ∀ c ∈ first, (c == '/') = false) :
    (first ++ (dirs.flatMap ('/' :: ·) ++ '/' :: w)).splitOnP (· == '/') =
      first :: (dirs ++ w.splitOnP (· == '/')) := by
  induction dirs generalizing first with
  | nil => exact List.splitOnP_append_cons_of_forall_mem hfirst '/' rfl w
  | cons d dirs ih =>
    obtain ⟨hd, hdirs⟩ := List.forall_mem_cons.mp hdirs
    -- the first piece ends at the `/` in front of `d`, and `d` begins what is left
    rw [List.flatMap_cons, List.cons_append, List.cons_append,
      List.splitOnP_append_cons_of_forall_mem hfirst '/' rfl, List.append_assoc,
      ih hdirs (beq_of_all hd.1 (by decide)), List.cons_append]

/-- Plain folders in front of a path are read as they are, whatever stands behind them. -/
theorem decodePath_append (hdirs : ∀ d ∈ dirs, PlainSegment d) (w : Text) :
    decodePath (dirs.flatMap ('/' :: ·) ++ '/' :: w) =
      ((w.splitOnP (· == '/')).mapM (component isSegmentChar)).map
        (removeDots dirs.reverse) := by
  have hdecode : dirs.mapM (component isSegmentChar) = some dirs :=
    mapM_eq_some_of_forall fun d hd => (hdirs d hd).component
  have hsplit := splitOnP_dirs hdirs w (List.forall_mem_nil _)
  rw [List.nil_append] at hsplit
  rw [decodePath, hsplit, List.tail_cons, List.mapM_append, hdecode]
  cases hrest : (w.splitOnP (· == '/')).mapM (component isSegmentChar) with
  | none => rfl
  | some rest =>
    -- a split has at least one piece, and each piece becomes a segment
    have hne : rest ≠ [] := by
      rintro rfl
      exact List.splitOnP_ne_nil _ _ (List.map_eq_nil_iff.mp (map_eq_of_mapM hrest))
    have hdots := removeDots_append hdirs hne []
    rw [List.append_nil] at hdots
    exact congrArg some hdots

/-- **A segment that is read back is plain**, if the path holds no more of it than it has
    characters. -/
theorem plainSegment_of_decodePath (hdirs : ∀ d ∈ dirs, PlainSegment d) {w x : Text}
    (hle : w.length ≤ x.length)
    (h : decodePath (dirs.flatMap ('/' :: ·) ++ '/' :: w) = some (dirs ++ [x])) :
    PlainSegment x := by
  rw [decodePath_append hdirs] at h
  obtain ⟨pieces, hpieces, hdots⟩ := Option.map_eq_some_iff.mp h
  have hmem : x ∈ removeDots dirs.reverse pieces := by simp [hdots]
  rcases mem_removeDots hmem with rfl | hdir | hpiece
  · -- a dot segment at the end leaves the empty one
    exact plainSegment_nil
  · -- `..` went up to a folder of the same name
    exact hdirs x (List.mem_reverse.mp hdir)
  · -- the piece that decodes to `x` is at most as long as `w`, so it is all of `w`
    have hdecoded : some x ∈ (w.splitOnP (· == '/')).map (component isSegmentChar) := by
      rw [map_eq_of_mapM hpieces]
      exact List.mem_map_of_mem hpiece
    obtain ⟨piece, hsplit, hdecode⟩ := List.mem_map.mp hdecoded
    have hshort := length_le_of_mem_splitOnP hsplit
    have hlong := length_le_of_component hdecode
    have hwhole := List.splitOnP_eq_singleton (not_sep_of_length_le_piece hsplit (by omega))
    obtain ⟨rfl, hplain⟩ := component_eq_some_of_length hdecode (by omega)
    obtain rfl : x = w := by simpa [hwhole] using hsplit
    rw [hwhole] at hpieces
    obtain rfl : [x] = pieces := by
      simpa [hdecode] using hpieces
    exact ⟨List.all_eq_true.mpr hplain, plain_of_removeDots_singleton hdots⟩

/-- A plain segment is read back. -/
theorem PlainSegment.decodePath {x : Text} (h : PlainSegment x)
    (hdirs : ∀ d ∈ dirs, PlainSegment d) :
    decodePath (dirs.flatMap ('/' :: ·) ++ '/' :: x) = some (dirs ++ [x]) := by
  have hslash : ∀ c ∈ x, (c == '/') = false := beq_of_all h.1 (by decide)
  rw [decodePath_append hdirs, List.splitOnP_eq_singleton hslash,
    mapM_eq_some_of_forall (List.forall_mem_singleton.mpr h.component)]
  simp [removeDots, h.2.1, h.2.2]

end Path

/-! ## Reading Back a Query -/

/-- A value that needs no escapes, and does not end at an `&`. -/
def PlainValue (v : Text) : Prop := (v.all fun c => isQueryChar c && c != '&') = true

instance (v : Text) : Decidable (PlainValue v) :=
  inferInstanceAs (Decidable ((v.all fun c => isQueryChar c && c != '&') = true))

theorem plainValue_iff {v : Text} :
    PlainValue v ↔ ∀ c ∈ v, isQueryChar c = true ∧ (c == '&') = false := by
  simp [PlainValue, List.all_eq_true]

/-- A name of a parameter that needs no escapes, and does not end at an `&` or an `=`. -/
def PlainName (name : Text) : Prop := PlainValue name ∧ '=' ∉ name

instance (name : Text) : Decidable (PlainName name) :=
  inferInstanceAs (Decidable (PlainValue name ∧ '=' ∉ name))

theorem PlainValue.component {v : Text} (h : PlainValue v) : component isQueryChar v = some v :=
  component_of_forall (by decide) fun c hc => (plainValue_iff.mp h c hc).1

section Query

variable {name : Text}

theorem decodeParameter_eq (h : PlainName name) (v : Text) :
    decodeParameter (name ++ '=' :: v) = (component isQueryChar v).map fun v => (name, v) := by
  have hname : ∀ c ∈ name, (c != '=') = true := by
    intro c hc
    exact bne_iff_ne.mpr fun heq => h.2 (heq ▸ hc)
  rw [decodeParameter, takeWhile_append_stop hname rfl, dropWhile_append_stop hname rfl,
    h.1.component, List.tail_cons]
  cases component isQueryChar v <;> rfl

/-- **A value that is read back is plain**, if the query holds no more of it than it has
    characters. -/
theorem plainValue_of_decodeQuery (hname : PlainName name) {w v : Text}
    (hle : w.length ≤ v.length)
    (h : decodeQuery (some (name ++ '=' :: w)) = some [(name, v)]) :
    PlainValue v := by
  rw [decodeQuery] at h
  -- one parameter: the query has no `&`
  have hone : ((name ++ '=' :: w).splitOnP (· == '&')).length = 1 := by
    simpa using congrArg List.length (map_eq_of_mapM h)
  have hamp := not_sep_of_length_splitOnP hone
  rw [List.splitOnP_eq_singleton hamp] at h
  have hdecode : decodeParameter (name ++ '=' :: w) = some (name, v) :=
    (List.cons.inj (map_eq_of_mapM h)).1
  rw [decodeParameter_eq hname] at hdecode
  obtain ⟨v', hv, heq⟩ := Option.map_eq_some_iff.mp hdecode
  obtain rfl : v' = v := congrArg Prod.snd heq
  obtain ⟨rfl, hplain⟩ := component_eq_some_of_length hv hle
  refine plainValue_iff.mpr fun c hc => ⟨hplain c hc, ?_⟩
  exact hamp c (List.mem_append_right _ (List.mem_cons_of_mem _ hc))

/-- A plain value is read back. -/
theorem PlainValue.decodeQuery {v : Text} (h : PlainValue v) (hname : PlainName name) :
    decodeQuery (some (name ++ '=' :: v)) = some [(name, v)] := by
  have hamp : ∀ c ∈ name ++ '=' :: v, (c == '&') = false := by
    rw [List.forall_mem_append, List.forall_mem_cons]
    exact ⟨fun c hc => (plainValue_iff.mp hname.1 c hc).2, rfl,
      fun c hc => (plainValue_iff.mp h c hc).2⟩
  rw [Url.decodeQuery, List.splitOnP_eq_singleton hamp]
  simp [decodeParameter_eq hname, h.component]

end Query

/-! ## Reading Back a URL -/

theorem decode_eq_some_iff {p : Parts} {u : Decoded} :
    p.decode = some u ↔
      isScheme p.scheme = true ∧ u.scheme = p.scheme ∧
        decodeAuthority p.authority = some u.authority ∧ decodePath p.path = some u.segments ∧
        decodeQuery p.query = some u.parameters ∧ decodeFragment p.fragment = some u.fragment := by
  unfold Parts.decode
  constructor
  · intro h
    obtain ⟨_, hscheme, h⟩ := Option.bind_eq_some_iff.mp h
    obtain ⟨authority, hauthority, h⟩ := Option.bind_eq_some_iff.mp h
    obtain ⟨segments, hsegments, h⟩ := Option.bind_eq_some_iff.mp h
    obtain ⟨parameters, hparameters, h⟩ := Option.bind_eq_some_iff.mp h
    obtain ⟨fragment, hfragment, h⟩ := Option.bind_eq_some_iff.mp h
    obtain rfl := Option.some.inj h
    exact ⟨(Option.guard_eq_some' _).mp hscheme, rfl, hauthority, hsegments, hparameters, hfragment⟩
  · rintro ⟨hscheme, hu, hauthority, hsegments, hparameters, hfragment⟩
    rw [(Option.guard_eq_some' ()).mpr hscheme, hauthority, hsegments, hparameters, hfragment, ← hu]
    rfl

/-- A registered name without user and port is read as it is. -/
theorem decodeAuthority_host {host : Text} (h : host.all isHostChar = true) :
    decodeAuthority host = some ⟨none, host, none⟩ := by
  -- no `@` sets a user apart, and no `:` a port
  have hat : '@' ∉ host := fun hmem => ne_of_all h (by decide) _ hmem rfl
  have hcolon : ∀ c ∈ host, (c != ':') = true := bne_of_all h (by decide)
  have htake : host.takeWhile (· != ':') = host := List.takeWhile_eq_self_iff.mpr hcolon
  have hdrop : host.dropWhile (· != ':') = [] := List.dropWhile_eq_nil_iff.mpr hcolon
  simp [decodeAuthority, hat, htake, hdrop, component_of_forall (by decide) (List.all_eq_true.mp h)]

theorem isScheme_ne {scheme : Text} (h : isScheme scheme = true) :
    ∀ c ∈ scheme, (c != ':') = true := by
  cases scheme with
  | nil => exact List.forall_mem_nil _
  | cons first rest =>
    obtain ⟨hfirst, hrest⟩ := Bool.and_eq_true_iff.mp h
    rw [List.forall_mem_cons]
    constructor
    · rw [bne_iff_ne]
      rintro rfl
      exact absurd hfirst (by decide)
    · exact bne_of_all hrest (by decide)

theorem not_isPathEnd {s : Text} (hquestion : ∀ c ∈ s, c ≠ '?') (hhash : ∀ c ∈ s, c ≠ '#') :
    ∀ c ∈ s, (!isPathEnd c) = true := by
  intro c hc
  simp [isPathEnd, hquestion c hc, hhash c hc]

theorem isHostChar_not_end {host : Text} (h : host.all isHostChar = true) :
    ∀ c ∈ host, (!isAuthorityEnd c) = true := by
  intro c hc
  have hslash : c ≠ '/' := ne_of_all h (by decide) c hc
  have hpath := not_isPathEnd (ne_of_all h (by decide)) (ne_of_all h (by decide)) c hc
  simpa [isAuthorityEnd, hslash] using hpath

/-- A URL that lacks its last segment and the value of its only parameter. -/
structure Template where
  scheme : Text
  host : Text
  dirs : List Text
  name : Text
  isScheme_scheme : isScheme scheme = true
  all_host : host.all isHostChar = true
  plain_dirs : ∀ d ∈ dirs, PlainSegment d
  plain_name : PlainName name

namespace Template

variable (t : Template)

/-- The path with a last segment. -/
def path (x : Text) : Text := t.dirs.flatMap ('/' :: ·) ++ '/' :: x

/-- What stands behind the host. -/
def behind (x v : Text) : Text := t.path x ++ '?' :: (t.name ++ '=' :: v)

/-- The URL with a last segment and a value pasted in. -/
def url (x v : Text) : Text := t.scheme ++ ':' :: '/' :: '/' :: (t.host ++ t.behind x v)

/-- What the URL is meant to say. -/
def decoded (x v : Text) : Decoded where
  scheme := t.scheme
  authority := ⟨none, t.host, none⟩
  segments := t.dirs ++ [x]
  parameters := [(t.name, v)]
  fragment := none

theorem path_eq_cons (x : Text) : ∃ rest, t.path x = '/' :: rest := by
  unfold path
  cases t.dirs with
  | nil => exact ⟨x, rfl⟩
  | cons d dirs => exact ⟨d ++ (dirs.flatMap ('/' :: ·) ++ '/' :: x), by simp⟩

/-- What does not stand in a segment and is no `/` does not stand in the folders. -/
theorem dirs_ne {d : Char} (hd : isSegmentChar d = false) (hslash : d ≠ '/') :
    ∀ c ∈ t.path [], c ≠ d := by
  intro c hc
  rcases List.mem_append.mp hc with hc | hc
  · obtain ⟨dir, hdir, hc⟩ := List.mem_flatMap.mp hc
    rcases List.mem_cons.mp hc with rfl | hc
    · exact hslash.symm
    · exact ne_of_all (t.plain_dirs dir hdir).1 hd c hc
  · rw [List.mem_singleton.mp hc]
    exact hslash.symm

theorem path_eq_append (x : Text) : t.path x = t.path [] ++ x := by
  simp [path]

/-- **The pieces of a pasted URL**: scheme and host are those of the template. -/
theorem parts_url (x v : Text) :
    parts (t.url x v) = some
      { scheme := t.scheme
        authority := t.host
        path := (t.behind x v).takeWhile (!isPathEnd ·)
        query := queryOf (t.behind x v)
        fragment := fragmentOf (t.behind x v) } := by
  have hscheme := isScheme_ne t.isScheme_scheme
  have hhost := isHostChar_not_end t.all_host
  -- the path begins with the `/` that ends the host
  obtain ⟨rest, hrest⟩ := t.path_eq_cons x
  have hbehind : t.behind x v = '/' :: (rest ++ '?' :: (t.name ++ '=' :: v)) := by
    rw [behind, hrest, List.cons_append]
  have hauthority : (t.host ++ t.behind x v).takeWhile (!isAuthorityEnd ·) = t.host := by
    rw [hbehind]
    exact takeWhile_append_stop hhost rfl _
  have hdrop : (t.host ++ t.behind x v).dropWhile (!isAuthorityEnd ·) = t.behind x v := by
    rw [hbehind]
    exact dropWhile_append_stop hhost rfl _
  rw [parts, url, takeWhile_append_stop hscheme rfl, dropWhile_append_stop hscheme rfl]
  simp only [hauthority, hdrop]

/-- The path ends at the first `?` or `#`, which may stand in what was pasted. -/
theorem takeWhile_behind (x v : Text) :
    (t.behind x v).takeWhile (!isPathEnd ·) = t.path (x.takeWhile (!isPathEnd ·)) := by
  have hdirs : ∀ c ∈ t.path [], (!isPathEnd c) = true :=
    not_isPathEnd (t.dirs_ne (by decide) (by decide)) (t.dirs_ne (by decide) (by decide))
  rw [behind, t.path_eq_append x, List.append_assoc, List.takeWhile_append_of_pos hdirs,
    takeWhile_append_cons rfl, ← t.path_eq_append]

section Plain

variable {t} {x v : Text}

theorem path_ne (hx : PlainSegment x) {d : Char} (hd : isSegmentChar d = false)
    (hslash : d ≠ '/') : ∀ c ∈ t.path x, c ≠ d := by
  rw [t.path_eq_append, List.forall_mem_append]
  exact ⟨t.dirs_ne hd hslash, ne_of_all hx.1 hd⟩

/-- Behind a plain segment stands the query, up to the first `#`. -/
theorem queryOf_behind (hx : PlainSegment x) :
    queryOf (t.behind x v) = some (t.name ++ '=' :: v.takeWhile (· != '#')) := by
  have hpath : ∀ c ∈ t.path x, (!isPathEnd c) = true :=
    not_isPathEnd (path_ne hx (by decide) (by decide)) (path_ne hx (by decide) (by decide))
  have hname : ∀ c ∈ t.name, (c != '#') = true := bne_of_all t.plain_name.1 (by decide)
  have hquery : (t.name ++ '=' :: v).takeWhile (· != '#') =
      t.name ++ '=' :: v.takeWhile (· != '#') := by
    rw [List.takeWhile_append_of_pos hname, List.takeWhile_cons_of_pos (by decide)]
  rw [queryOf, behind, dropWhile_append_stop hpath rfl]
  exact congrArg some hquery

theorem fragmentOf_behind (hx : PlainSegment x) (hv : PlainValue v) :
    fragmentOf (t.behind x v) = none := by
  have hhash : ∀ c ∈ t.behind x v, (c != '#') = true := by
    simp only [bne_iff_ne]
    rw [behind, List.forall_mem_append, List.forall_mem_cons, List.forall_mem_append,
      List.forall_mem_cons]
    exact ⟨path_ne hx (by decide) (by decide), by decide,
      ne_of_all t.plain_name.1 (by decide), by decide, ne_of_all hv (by decide)⟩
  rw [fragmentOf, List.dropWhile_eq_nil_iff.mpr hhash]

end Plain

/-- **What comes back was plain**: a URL that says what was pasted into it has a plain last
    segment and a plain value. -/
theorem plain_of_decode {x v : Text} {u : Decoded} (h : decode (t.url x v) = some u)
    (hsegments : u.segments = t.dirs ++ [x]) (hparameters : u.parameters = [(t.name, v)]) :
    PlainSegment x ∧ PlainValue v := by
  rw [decode, parts_url, Option.bind_some, decode_eq_some_iff] at h
  obtain ⟨-, -, -, hpath, hquery, -⟩ := h
  rw [takeWhile_behind, hsegments] at hpath
  -- the path and the query hold no more than what was pasted, up to a delimiter
  have hx := plainSegment_of_decodePath t.plain_dirs
    (List.takeWhile_prefix _).length_le hpath
  rw [queryOf_behind hx, hparameters] at hquery
  exact ⟨hx, plainValue_of_decodeQuery t.plain_name (List.takeWhile_prefix _).length_le hquery⟩

/-- Plain pieces come back. -/
theorem decode_url {x v : Text} (hx : PlainSegment x) (hv : PlainValue v) :
    decode (t.url x v) = some (t.decoded x v) := by
  have hpath : ∀ c ∈ x, (!isPathEnd c) = true :=
    not_isPathEnd (ne_of_all hx.1 (by decide)) (ne_of_all hx.1 (by decide))
  have hvalue : ∀ c ∈ v, (c != '#') = true := bne_of_all hv (by decide)
  rw [decode, parts_url, Option.bind_some, decode_eq_some_iff]
  refine ⟨t.isScheme_scheme, rfl, decodeAuthority_host t.all_host, ?_, ?_, ?_⟩
  · rw [takeWhile_behind, List.takeWhile_eq_self_iff.mpr hpath]
    exact hx.decodePath t.plain_dirs
  · rw [queryOf_behind hx, List.takeWhile_eq_self_iff.mpr hvalue]
    exact hv.decodeQuery t.plain_name
  · rw [fragmentOf_behind hx hv]
    rfl

/-- Plain pieces make up the same request only if they are the same. -/
theorem equivalent_url_iff {x v x' v' : Text} (hx : PlainSegment x) (hv : PlainValue v)
    (hx' : PlainSegment x') (hv' : PlainValue v') :
    Equivalent (t.url x v) (t.url x' v') ↔ x = x' ∧ v = v' := by
  rw [Equivalent, t.decode_url hx hv, t.decode_url hx' hv']
  constructor
  · rintro ⟨u, u', hu, hu', heq⟩
    rw [← Option.some.inj hu, ← Option.some.inj hu'] at heq
    obtain ⟨-, -, hsegments, hparameters, -⟩ := Decoded.mk.inj heq
    exact ⟨by simpa [decoded] using hsegments, by simpa [decoded] using hparameters⟩
  · rintro ⟨rfl, rfl⟩
    exact ⟨_, _, rfl, rfl, rfl⟩

end Template

end Url
