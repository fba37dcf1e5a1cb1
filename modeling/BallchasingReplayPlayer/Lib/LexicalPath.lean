import Mathlib.Data.List.Basic
import Mathlib.Data.List.Infix
import Mathlib.Data.List.TakeWhile

/-!
# Lexical Paths

The lexical half of `std::filesystem::path` on Windows: how a string is cut into a
root name, a root directory and file names, how `operator/` composes two paths and what
`lexically_normal` makes of the result. No file system is involved.

## Grammar

- root name: a drive `X:`, a device prefix `\\?`, `\\.` or `\??` in front of a separator,
  or a server `\\name`
- root directory: separators right after the root name
- file names: what stands between runs of separators; a trailing separator leaves an
  empty last name

## Main Results

- `walk_append`, `push_of_realName`: dot segments are resolved by a stack
- `lexicallyNormal_names`: the normal form of a rooted path that ends in a real name
- `parse_append_names`: a suffix without separators stays in the last file name
- `div_isChildOf_iff`: when a composed path stays inside its left operand
-/

namespace LexicalPath

/-- A string, as a list of characters. -/
abbrev Text := List Char

/-- Both `/` and `\` separate file names. -/
def isSep (c : Char) : Bool := c == '/' || c == '\\'

/-- A path, cut into its parts. A trailing separator is recorded as an empty last name. -/
structure Path where
  rootName : Text
  rootDir : Bool
  names : List Text
deriving DecidableEq, Repr

/-! ## Parsing -/

/-- `X:` at the start of the string. -/
def isDrivePrefix : Text → Bool
  | c :: ':' :: _ => c.isAlpha
  | _ => false

/-- `\\?\`, `\\.\` or `\??\`, not followed by another separator. -/
def isDevicePrefix : Text → Bool
  | a :: b :: c :: d :: rest =>
    isSep a && isSep d && !(rest.head?.any isSep) &&
      ((isSep b && (c == '?' || c == '.')) || (b == '?' && c == '?'))
  | _ => false

/-- `\\` followed by something that is not a separator. -/
def isServerPrefix : Text → Bool
  | a :: b :: c :: _ => isSep a && isSep b && !isSep c
  | _ => false

/-- The length of the root name. -/
def rootNameLength (s : Text) : ℕ :=
  if isDrivePrefix s then 2
  else if isDevicePrefix s then 3
  else if isServerPrefix s then 3 + ((s.drop 3).takeWhile (!isSep ·)).length
  else 0

/-- The file names of a relative path: empty names between separators are dropped, an
    empty name after the last separator is kept. -/
def fileNames (s : Text) : List Text :=
  if s = [] then []
  else (s.splitOnP isSep).dropLast.filter (· ≠ []) ++ [(s.splitOnP isSep).getLastD []]

/-- `path(s)`. -/
def parse (s : Text) : Path where
  rootName := s.take (rootNameLength s)
  rootDir := (s.drop (rootNameLength s)).head?.any isSep
  names := fileNames ((s.drop (rootNameLength s)).dropWhile isSep)

/-! ## Composition -/

/-- `is_absolute`: a drive needs a root directory to be absolute, any other root name
    does not. -/
def Path.isAbsolute (p : Path) : Bool :=
  p.rootName ≠ [] && (p.rootDir || !isDrivePrefix p.rootName)

/-- The names of a path without the empty one a trailing separator leaves. -/
def withoutTrailing (names : List Text) : List Text :=
  if names.getLast? = some [] then names.dropLast else names

/-- `operator/`: an absolute right operand, or one with another root name, replaces the
    left one; one with a root directory keeps the root name only; any other is appended. -/
def Path.div (l r : Path) : Path :=
  if r.isAbsolute || (r.rootName ≠ [] && r.rootName ≠ l.rootName) then r
  else if r.rootDir then { l with rootDir := true, names := r.names }
  else
    { l with
      rootDir := l.rootDir || l.isAbsolute
      names := withoutTrailing l.names ++
        if r.names = [] && withoutTrailing l.names ≠ [] then [[]] else r.names }

instance : Div Path := ⟨Path.div⟩

/-! ## Normal Form -/

/-- The segment `.`. -/
def dot : Text := ['.']

/-- The segment `..`. -/
def dotDot : Text := ['.', '.']

/-- One file name read on top of the folders above it (nearest folder first): `.` and the
    empty name stay, `..` goes up, and a root directory has no parent. -/
def push (rooted : Bool) (stack : List Text) (name : Text) : List Text :=
  if name = [] ∨ name = dot then stack
  else if name = dotDot then
    match stack with
    | [] => if rooted then [] else [dotDot]
    | top :: above => if top = dotDot then dotDot :: top :: above else above
  else name :: stack

/-- Reads file names one after the other, starting in the folder `stack`. -/
def walk (rooted : Bool) (stack : List Text) (names : List Text) : List Text :=
  names.foldl (push rooted) stack

/-- The path ends in a separator or in a dot segment. -/
def Path.endsInFolder (p : Path) : Bool :=
  match p.names.getLast? with
  | some name => name = [] || name = dot || name = dotDot
  | none => false

/-- The root name as `lexically_normal` spells it. -/
def normalRoot (rootName : Text) : Text := rootName.map fun c => if c = '/' then '\\' else c

/-- `lexically_normal`. -/
def Path.lexicallyNormal (p : Path) : Path :=
  let stack := walk p.rootDir [] p.names
  let names :=
    if p.endsInFolder && stack ≠ [] && stack.head? ≠ some dotDot then stack.reverse ++ [[]]
    else stack.reverse
  { rootName := normalRoot p.rootName
    rootDir := p.rootDir
    names := if p.rootName = [] && !p.rootDir && names = [] && p.names ≠ [] then [dot]
      else names }

/-- A file name that is no dot segment. -/
def RealName (name : Text) : Prop := name ≠ [] ∧ name ≠ dot ∧ name ≠ dotDot

instance (name : Text) : Decidable (RealName name) :=
  inferInstanceAs (Decidable (name ≠ [] ∧ name ≠ dot ∧ name ≠ dotDot))

/-- `p` is `dir` followed by one real file name. -/
def Path.IsChildOf (p dir : Path) : Prop :=
  p.rootName = dir.rootName ∧ p.rootDir = dir.rootDir ∧
    ∃ name, RealName name ∧ p.names = dir.names ++ [name]

/-! ## Walking -/

theorem walk_append (rooted : Bool) (stack : List Text) (as bs : List Text) :
    walk rooted stack (as ++ bs) = walk rooted (walk rooted stack as) bs :=
  List.foldl_append

@[simp] theorem walk_nil (rooted : Bool) (stack : List Text) : walk rooted stack [] = stack := rfl

theorem push_of_realName {name : Text} (h : RealName name) (rooted : Bool) (stack : List Text) :
    push rooted stack name = name :: stack := by
  obtain ⟨hnil, hdot, hdd⟩ := h
  simp [push, hnil, hdot, hdd]

/-- **Normal form of a rooted path to a real name**: the folders are resolved by the
    stack, the name stays. -/
theorem lexicallyNormal_names {p : Path} {dirs : List Text} {name : Text}
    (hrooted : p.rootDir = true) (hnames : p.names = dirs ++ [name]) (hreal : RealName name) :
    p.lexicallyNormal.names = (walk true [] dirs).reverse ++ [name] := by
  have hwalk : walk true [] p.names = name :: walk true [] dirs := by
    rw [hnames, walk_append]
    exact push_of_realName hreal true _
  have hlast : p.endsInFolder = false := by
    obtain ⟨hnil, hdot, hdd⟩ := hreal
    simp [Path.endsInFolder, hnames, hnil, hdot, hdd]
  simp [Path.lexicallyNormal, hrooted, hwalk, hlast]

@[simp] theorem lexicallyNormal_rootDir (p : Path) : p.lexicallyNormal.rootDir = p.rootDir := rfl

/-! ## Suffixes Without Separators -/

/-- Text without separators behind `s` extends the last piece of `s`. -/
theorem splitOnP_append_of_no_sep {p : Char → Bool} {suffix : Text}
    (hext : ∀ c ∈ suffix, p c = false) (s : Text) :
    (s ++ suffix).splitOnP p =
      (s.splitOnP p).dropLast ++ [(s.splitOnP p).getLastD [] ++ suffix] := by
  induction s with
  | nil => simp [List.splitOnP_eq_singleton hext]
  | cons c cs ih =>
    rw [List.cons_append, List.splitOnP_cons_eq_if_modifyHead,
      List.splitOnP_cons_eq_if_modifyHead, ih]
    have hne : cs.splitOnP p ≠ [] := List.splitOnP_ne_nil p cs
    -- `c` starts a piece or extends the first one, which is the last one only if it is alone
    cases hcs : cs.splitOnP p with
    | nil => exact absurd hcs hne
    | cons piece pieces =>
      cases pieces with
      | nil => split <;> simp
      | cons piece' pieces' => split <;> simp

theorem fileNames_append {suffix : Text} (hne : suffix ≠ [])
    (hext : ∀ c ∈ suffix, isSep c = false) (s : Text) :
    ∃ dirs name, fileNames (s ++ suffix) = dirs ++ [name ++ suffix] := by
  refine ⟨(s.splitOnP isSep).dropLast.filter (· ≠ []), (s.splitOnP isSep).getLastD [], ?_⟩
  have hs : s ++ suffix ≠ [] := by simp [hne]
  rw [fileNames, if_neg hs, splitOnP_append_of_no_sep hext]
  simp

private theorem two_le_of_isDrivePrefix {s suffix : Text} (hcolon : ':' ∉ suffix)
    (h : isDrivePrefix (s ++ suffix) = true) : 2 ≤ s.length := by
  by_contra hshort
  -- the colon would be one of the suffix
  match hse : s ++ suffix, h with
  | [], h | [_], h => simp [isDrivePrefix] at h
  | c :: d :: rest, h =>
    have hd : d = ':' := by
      by_contra hne
      simp [isDrivePrefix, hne] at h
    have hget : (s ++ suffix)[1]? = some d := by rw [hse]; rfl
    rw [List.getElem?_append_right (by omega), hd] at hget
    exact hcolon (List.mem_of_getElem? hget)

private theorem four_le_of_isDevicePrefix {s suffix : Text}
    (hext : ∀ c ∈ suffix, isSep c = false) (h : isDevicePrefix (s ++ suffix) = true) :
    4 ≤ s.length := by
  by_contra hshort
  -- the separator behind the prefix would be one of the suffix
  match hse : s ++ suffix, h with
  | [], h | [_], h | [_, _], h | [_, _, _], h => simp [isDevicePrefix] at h
  | a :: b :: c :: d :: rest, h =>
    have hsep : isSep d = true := by
      simp only [isDevicePrefix, Bool.and_eq_true] at h
      exact h.1.1.2
    have hget : (s ++ suffix)[3]? = some d := by rw [hse]; rfl
    rw [List.getElem?_append_right (by omega)] at hget
    rw [hext d (List.mem_of_getElem? hget)] at hsep
    cases hsep

private theorem drop_length_takeWhile (p : Char → Bool) (l : Text) :
    l.drop (l.takeWhile p).length = l.dropWhile p := by
  have h : (l.takeWhile p ++ l.dropWhile p).drop (l.takeWhile p).length = l.dropWhile p :=
    List.drop_left
  rwa [List.takeWhile_append_dropWhile] at h

/-- Behind the root name, a string that ends in `suffix` still ends in `suffix`, unless the root
    name is a server name that reaches to the end. -/
theorem drop_rootName_append {suffix : Text} (hext : ∀ c ∈ suffix, isSep c = false)
    (hcolon : ':' ∉ suffix) (s : Text) :
    (∃ mid, (s ++ suffix).drop (rootNameLength (s ++ suffix)) = mid ++ suffix) ∨
      ((s ++ suffix).drop (rootNameLength (s ++ suffix)) = [] ∧
        isDrivePrefix (s ++ suffix) = false) := by
  unfold rootNameLength
  split
  case isTrue hdrive =>
    have hlen := two_le_of_isDrivePrefix hcolon hdrive
    exact Or.inl ⟨s.drop 2, List.drop_append_of_le_length hlen⟩
  case isFalse hdrive =>
    split
    case isTrue hdevice =>
      have hlen := four_le_of_isDevicePrefix hext hdevice
      exact Or.inl ⟨s.drop 3, List.drop_append_of_le_length (by omega)⟩
    case isFalse =>
      split
      case isTrue =>
        rw [← List.drop_drop, drop_length_takeWhile, List.drop_append, List.dropWhile_append]
        split
        · -- no separator behind the server name
          refine Or.inr ⟨?_, by simpa using hdrive⟩
          rw [List.dropWhile_eq_nil_iff]
          intro c hc
          simp [hext c (List.mem_of_mem_drop hc)]
        · -- the server name ends at a separator, which is one of `s`
          rename_i hsome
          have hlen : 3 - s.length = 0 := by
            by_contra hshort
            have hnil : s.drop 3 = [] := List.drop_eq_nil_of_le (by omega)
            simp [hnil] at hsome
          exact Or.inl ⟨(s.drop 3).dropWhile (!isSep ·), by simp [hlen]⟩
      case isFalse => exact Or.inl ⟨s, rfl⟩

/-- **Suffix rule**: text without separators and colons at the end of a string is the end
    of the path's last file name, or the string is one long server name. -/
theorem parse_append_names {suffix : Text} (hne : suffix ≠ [])
    (hext : ∀ c ∈ suffix, isSep c = false) (hcolon : ':' ∉ suffix) (s : Text) :
    (∃ dirs name, (parse (s ++ suffix)).names = dirs ++ [name ++ suffix]) ∨
      ((parse (s ++ suffix)).names = [] ∧ (parse (s ++ suffix)).rootDir = false ∧
        (parse (s ++ suffix)).isAbsolute = true) := by
  rcases drop_rootName_append hext hcolon s with ⟨mid, hmid⟩ | ⟨hnil, hdrive⟩
  · left
    -- the separators of the root directory end in front of the suffix
    have hstart : suffix.dropWhile isSep = suffix := by
      cases suffix with
      | nil => rfl
      | cons c cs => simp [hext c (List.mem_cons_self ..)]
    have hrel : ∃ mid', (mid ++ suffix).dropWhile isSep = mid' ++ suffix := by
      rw [List.dropWhile_append]
      split
      · exact ⟨[], by simpa using hstart⟩
      · exact ⟨_, rfl⟩
    obtain ⟨mid', hrel⟩ := hrel
    simp only [parse, hmid, hrel]
    exact fileNames_append hne hext mid'
  · right
    -- the root name is the whole string, so the path is absolute and has no names
    have hall : (s ++ suffix).take (rootNameLength (s ++ suffix)) = s ++ suffix :=
      List.take_of_length_le (List.drop_eq_nil_iff.mp hnil)
    refine ⟨by simp [parse, hnil, fileNames], by simp [parse, hnil], ?_⟩
    simp [Path.isAbsolute, parse, hall, hdrive, hne]

/-! ## Composition and Containment -/

theorem walk_withoutTrailing (rooted : Bool) (stack names : List Text) :
    walk rooted stack (withoutTrailing names) = walk rooted stack names := by
  unfold withoutTrailing
  split
  case isTrue hlast =>
    have hsplit := List.dropLast_append_getLast? [] hlast
    -- reading the empty name changes nothing
    conv_rhs => rw [← hsplit, walk_append]
    simp [walk, push]
  case isFalse => rfl

/-- The folders `r` names, read from `l` (from the root, if `r` is rooted), lead back to
    `l`. -/
def Path.LeadsBackTo (r l : Path) : Prop :=
  if r.rootDir then
    (r.rootName = [] ∨ normalRoot r.rootName = normalRoot l.rootName) ∧
      walk true [] r.names.dropLast = walk true [] l.names
  else
    r.isAbsolute = false ∧ (r.rootName = [] ∨ r.rootName = l.rootName) ∧
      walk true (walk true [] l.names) r.names.dropLast = walk true [] l.names

instance (r l : Path) : Decidable (r.LeadsBackTo l) :=
  inferInstanceAs (Decidable (if r.rootDir then _ else _))

/-- A path that does not end in a folder has the resolved stack as its normal names. -/
theorem lexicallyNormal_names_of_file {p : Path} (hrooted : p.rootDir = true)
    (hfile : p.endsInFolder = false) :
    p.lexicallyNormal.names = (walk true [] p.names).reverse := by
  simp [Path.lexicallyNormal, hrooted, hfile]

theorem div_of_replaces {l r : Path}
    (h : r.isAbsolute = true ∨ (r.rootName ≠ [] ∧ r.rootName ≠ l.rootName)) : l / r = r := by
  change l.div r = r
  have hcond : (r.isAbsolute || (decide (r.rootName ≠ []) && decide (r.rootName ≠ l.rootName)))
      = true := by
    simpa using h
  simp only [Path.div, hcond, if_true]

theorem div_of_keeps {l r : Path} (habs : r.isAbsolute = false)
    (hroot : r.rootName = [] ∨ r.rootName = l.rootName) :
    l / r =
      if r.rootDir then { l with rootDir := true, names := r.names }
      else
        { l with
          rootDir := l.rootDir || l.isAbsolute
          names := withoutTrailing l.names ++
            if r.names = [] && withoutTrailing l.names ≠ [] then [[]] else r.names } := by
  change l.div r = _
  have hcond : (r.isAbsolute || (decide (r.rootName ≠ []) && decide (r.rootName ≠ l.rootName)))
      = false := by
    rcases hroot with hroot | hroot <;> simp [habs, hroot]
  simp only [Path.div, hcond, Bool.false_eq_true, if_false]

/-- `r` replaces `l`, or it does not and keeps the root name of `l`. -/
theorem replaces_or_keeps (l r : Path) :
    (r.isAbsolute = true ∨ (r.rootName ≠ [] ∧ r.rootName ≠ l.rootName)) ∨
      (r.isAbsolute = false ∧ (r.rootName = [] ∨ r.rootName = l.rootName)) := by
  cases r.isAbsolute with
  | true => exact Or.inl (Or.inl rfl)
  | false =>
    by_cases hnil : r.rootName = []
    · exact Or.inr ⟨rfl, Or.inl hnil⟩
    · by_cases hsame : r.rootName = l.rootName
      · exact Or.inr ⟨rfl, Or.inr hsame⟩
      · exact Or.inl (Or.inr ⟨hnil, hsame⟩)

/-- A rooted right operand leaves nothing of the left one but the root name, and that only
    if it has none of its own. -/
theorem div_of_rooted {l r : Path} (hdir : r.rootDir = true) :
    l / r =
      { rootName := if r.rootName = [] then l.rootName else r.rootName
        rootDir := true
        names := r.names } := by
  by_cases hroot : r.rootName = []
  · rw [div_of_keeps (by simp [Path.isAbsolute, hroot]) (Or.inl hroot), if_pos hdir,
      if_pos hroot]
  · rw [div_of_replaces (Or.inl (by simp [Path.isAbsolute, hroot, hdir])), if_neg hroot, ← hdir]

/-- A relative path to a file is read on top of a rooted folder. -/
theorem div_of_relative {l r : Path} {dirs : List Text} {name : Text} (hl : l.rootDir = true)
    (hnames : r.names = dirs ++ [name]) (hdir : r.rootDir = false) (habs : r.isAbsolute = false)
    (hroot : r.rootName = [] ∨ r.rootName = l.rootName) :
    l / r = { l with names := (withoutTrailing l.names ++ dirs) ++ [name] } := by
  rw [div_of_keeps habs hroot, if_neg (by simp [hdir])]
  simp [hl, hnames]

/-- A rooted path to a real name is a child of `dir` iff its folders resolve to `dir`. -/
theorem isChildOf_iff_of_rooted {p dir : Path} {dirs : List Text} {name : Text}
    (hrooted : p.rootDir = true) (hnames : p.names = dirs ++ [name]) (hreal : RealName name)
    (hdir : dir.rootDir = true) (hfile : dir.endsInFolder = false) :
    p.lexicallyNormal.IsChildOf dir.lexicallyNormal ↔
      normalRoot p.rootName = normalRoot dir.rootName ∧
        walk true [] dirs = walk true [] dir.names := by
  have hp := lexicallyNormal_names hrooted hnames hreal
  have hd := lexicallyNormal_names_of_file hdir hfile
  constructor
  · rintro ⟨hroot, -, name', -, heq⟩
    rw [hp, hd] at heq
    exact ⟨hroot, List.reverse_injective (List.append_inj_left' heq rfl)⟩
  · rintro ⟨hroot, hwalk⟩
    refine ⟨hroot, ?_, name, hreal, ?_⟩
    · rw [lexicallyNormal_rootDir, lexicallyNormal_rootDir, hrooted, hdir]
    · rw [hp, hd, hwalk]

/-- **Containment rule**: joining a rooted folder `l` and a path `r` to a real name gives a
    child of `l` iff the folders of `r` lead back to `l`. -/
theorem div_isChildOf_iff {l r : Path} {dirs : List Text} {name : Text}
    (hl : l.rootDir = true) (hfile : l.endsInFolder = false)
    (hnames : r.names = dirs ++ [name]) (hreal : RealName name) :
    (l / r).lexicallyNormal.IsChildOf l.lexicallyNormal ↔ r.LeadsBackTo l := by
  have hdirs : r.names.dropLast = dirs := by simp [hnames]
  unfold Path.LeadsBackTo
  rw [hdirs]
  by_cases hdir : r.rootDir = true
  · -- rooted: the folders are read from the root
    have hdiv := div_of_rooted (l := l) hdir
    have hrooted : (l / r).rootDir = true := by rw [hdiv]
    have hdivnames : (l / r).names = dirs ++ [name] := by rw [hdiv, hnames]
    rw [isChildOf_iff_of_rooted hrooted hdivnames hreal hl hfile, if_pos hdir, hdiv]
    refine and_congr_left fun _ => ?_
    by_cases hroot : r.rootName = []
    · simp [hroot]
    · simp [hroot]
  · have hrelative : r.rootDir = false := by simpa using hdir
    rw [if_neg hdir]
    rcases replaces_or_keeps l r with hreplaces | ⟨habs, hroot⟩
    · -- replaced by a path without a root directory, which is nobody's child
      constructor
      · rintro ⟨-, hroot, -⟩
        rw [lexicallyNormal_rootDir, lexicallyNormal_rootDir, div_of_replaces hreplaces, hl,
          hrelative] at hroot
        cases hroot
      · rintro ⟨habs, hroot, -⟩
        rcases hreplaces with hreplaces | ⟨hnil, hother⟩
        · exact absurd (habs.symm.trans hreplaces) Bool.false_ne_true
        · exact (hroot.elim hnil hother).elim
    · -- relative: the folders are read on top of those of `l`
      have hdiv := div_of_relative hl hnames hrelative habs hroot
      have hrooted : (l / r).rootDir = true := by rw [hdiv, hl]
      have hdivnames : (l / r).names = (withoutTrailing l.names ++ dirs) ++ [name] := by
        rw [hdiv]
      rw [isChildOf_iff_of_rooted hrooted hdivnames hreal hl hfile, hdiv, walk_append,
        walk_withoutTrailing]
      simp [habs, hroot]

/-- The last name of the right operand is the last name of the composition. -/
theorem div_names_last {r : Path} {dirs : List Text} {name : Text}
    (hnames : r.names = dirs ++ [name]) (l : Path) : ∃ ds, (l / r).names = ds ++ [name] := by
  rcases replaces_or_keeps l r with hreplaces | ⟨habs, hroot⟩
  · exact ⟨dirs, by rw [div_of_replaces hreplaces, hnames]⟩
  · rw [div_of_keeps habs hroot]
    split
    · exact ⟨dirs, hnames⟩
    · exact ⟨withoutTrailing l.names ++ dirs, by simp [hnames]⟩

/-- The child of `l` that `r` names: the normal form of `l` and the last name of `r`. -/
theorem div_lexicallyNormal_of_leadsBackTo {l r : Path} {dirs : List Text} {name : Text}
    (hl : l.rootDir = true) (hfile : l.endsInFolder = false)
    (hnames : r.names = dirs ++ [name]) (hreal : RealName name) (hback : r.LeadsBackTo l) :
    (l / r).lexicallyNormal =
      { l.lexicallyNormal with names := l.lexicallyNormal.names ++ [name] } := by
  obtain ⟨hroot, hdir, name', -, heq⟩ := (div_isChildOf_iff hl hfile hnames hreal).mpr hback
  obtain ⟨ds, hds⟩ := div_names_last hnames l
  have hrooted : (l / r).rootDir = true := by
    simpa only [lexicallyNormal_rootDir, hl] using hdir
  have hlast := lexicallyNormal_names hrooted hds hreal
  -- the child that was found is the one `r` ends in
  have hname : name' = name := by
    rw [heq] at hlast
    simpa using List.append_inj_right' hlast rfl
  rw [hname] at heq
  generalize (l / r).lexicallyNormal = q at hroot hdir heq
  cases q
  simp_all

/-- A path without names is not a child of anything. -/
theorem not_isChildOf_of_no_names {p dir : Path} (h : p.lexicallyNormal.names = []) :
    ¬ p.lexicallyNormal.IsChildOf dir := by
  rintro ⟨-, -, name, -, heq⟩
  simp [h] at heq

/-! ## Plain Names -/

theorem rootNameLength_of_plain {s : Text} (hsep : ∀ c ∈ s, isSep c = false) (hcolon : ':' ∉ s) :
    rootNameLength s = 0 := by
  have hdrive : isDrivePrefix s = false := by
    unfold isDrivePrefix
    split
    · simp at hcolon
    · rfl
  have hfirst : ∀ a ∈ s.head?, isSep a = false := fun a ha => hsep a (List.mem_of_mem_head? ha)
  have hdevice : isDevicePrefix s = false := by
    unfold isDevicePrefix
    split
    · simp [hfirst _ rfl]
    · rfl
  have hserver : isServerPrefix s = false := by
    unfold isServerPrefix
    split
    · simp [hfirst _ rfl]
    · rfl
  simp [rootNameLength, hdrive, hdevice, hserver]

/-- A string without separators and colons is a relative path of one name. -/
theorem parse_of_plain {s : Text} (hne : s ≠ []) (hsep : ∀ c ∈ s, isSep c = false)
    (hcolon : ':' ∉ s) : parse s = { rootName := [], rootDir := false, names := [s] } := by
  have hdir : s.head?.any isSep = false := by
    cases s with
    | nil => rfl
    | cons c cs => exact hsep c List.mem_cons_self
  have hdrop : s.dropWhile isSep = s := by
    cases s with
    | nil => rfl
    | cons c cs => exact List.dropWhile_cons_of_neg (by simp [hsep c List.mem_cons_self])
  have hnames : fileNames s = [s] := by
    rw [fileNames, if_neg hne, List.splitOnP_eq_singleton hsep]
    rfl
  simp [parse, rootNameLength_of_plain hsep hcolon, hdir, hdrop, hnames]

end LexicalPath
