import Mathlib.Data.List.Find
import Mathlib.Data.List.Induction
import WeakestPre.Settings

/-!
# The nearest settings file

The search for a settings file works on texts: it starts at the absolute path of a text, looks for
the names in the directory at hand, goes on with the directory part of its path, and stops where
the directory part is the path itself.

**Theorem** (`Settings.find?_nearest`). In every tree and from every start the search ends, and
with the nearest settings file: no directory between it and the start has a file of any of the
names, and its own directory has none of a preferred name. The search ends with nothing iff no
directory from the start up to the root has one, the root included.

**Plain paths** (`Path.Plain`). An absolute path has no empty component and no dots, so it is read
back from its text (`absolute_spelled`). Its directory part is the path without the last component
(`directoryPart_spelled`), and only the root is its own.

By induction on the components, the search through texts (`Settings.Climbs`) goes through the
candidates of a path in their order.
-/

namespace WeakestPre

/-! ## Paths above a path -/

namespace Path

variable {p q : Path} {c : String}

theorem ancestors_nil : ancestors [] = [[]] := rfl

theorem ancestors_concat (p : Path) (c : String) :
    ancestors (p ++ [c]) = (p ++ [c]) :: ancestors p := by
  have hbelow : (List.range (p.length + 1)).map (p ++ [c]).take =
      (List.range (p.length + 1)).map p.take := by
    refine List.map_congr_left fun i hi => ?_
    exact List.take_append_of_le_length (Nat.le_of_lt_succ (List.mem_range.1 hi))
  rw [ancestors, ancestors, List.length_append, List.length_singleton, List.range_succ,
    List.reverse_append, List.map_append, List.map_reverse, List.map_reverse, hbelow]
  simp [List.take_of_length_le]

theorem mem_ancestors : q ∈ p.ancestors ↔ q <+: p := by
  induction p using List.reverseRecOn with
  | nil => simp [ancestors_nil]
  | append_singleton p c ih => rw [ancestors_concat, List.mem_cons, ih, List.prefix_concat_iff]

/-- The paths above a path come one by one, the longest first. -/
theorem ancestors_pairwise (p : Path) :
    p.ancestors.Pairwise fun nearer farther => farther.length < nearer.length := by
  induction p using List.reverseRecOn with
  | nil => simp [ancestors_nil]
  | append_singleton p c ih =>
    rw [ancestors_concat, List.pairwise_cons]
    refine ⟨fun q hq => ?_, ih⟩
    have := (mem_ancestors.1 hq).length_le
    simp only [List.length_append, List.length_singleton]
    omega

/-! ## Plain paths -/

/-- A component that stands for itself. -/
def IsName (c : String) : Prop := c ≠ "" ∧ c ≠ "." ∧ c ≠ ".." ∧ '/' ∉ c.toList

instance : DecidablePred IsName := fun c => by unfold IsName; infer_instance

/-- The path of an entry: no component is empty, a dot or two, or has a slash in it. -/
def Plain (p : Path) : Prop := ∀ c ∈ p, IsName c

instance : DecidablePred Plain := fun p => by unfold Plain; infer_instance

theorem plain_concat_iff : Plain (p ++ [c]) ↔ Plain p ∧ IsName c := by
  simp [Plain, or_imp, forall_and]

theorem Plain.dropLast (hp : Plain p) : Plain p.dropLast :=
  fun c hc => hp c (List.dropLast_subset p hc)

theorem Plain.resolve (hp : Plain p) (hc : '/' ∉ c.toList) : Plain (p.resolve c) := by
  rw [Path.resolve]
  split
  · exact hp
  next hnone =>
    split
    · exact hp.dropLast
    next hup =>
      rw [not_or] at hnone
      exact plain_concat_iff.2 ⟨hp, hnone.1, hnone.2, hup, hc⟩

theorem Plain.foldl_resolve (hp : Plain p) {components : List String}
    (h : ∀ c ∈ components, '/' ∉ c.toList) : Plain (components.foldl Path.resolve p) := by
  induction components generalizing p with
  | nil => exact hp
  | cons c rest ih =>
    exact ih (hp.resolve (h c List.mem_cons_self)) fun d hd => h d (List.mem_cons_of_mem c hd)

theorem notMem_of_mem_splitOnP {text part : List Char}
    (h : part ∈ text.splitOnP (· == '/')) : '/' ∉ part := by
  induction text generalizing part with
  | nil => simp_all
  | cons x rest ih =>
    rw [List.splitOnP_cons_eq_if_modifyHead] at h
    split at h
    · obtain rfl | h := List.mem_cons.1 h
      · simp
      · exact ih h
    next hx =>
      cases hparts : rest.splitOnP (· == '/') with
      | nil => exact absurd hparts (List.splitOnP_ne_nil _ _)
      | cons first parts =>
        rw [hparts, List.modifyHead_cons] at h
        obtain rfl | h := List.mem_cons.1 h
        · have hfirst : '/' ∉ first := ih (hparts ▸ List.mem_cons_self)
          have hslash : '/' ≠ x := fun h => hx (by simp [← h])
          simp [hslash, hfirst]
        · exact ih (hparts ▸ List.mem_cons_of_mem first h)

theorem slash_notMem_of_mem_split {s : String} (h : c ∈ split s) : '/' ∉ c.toList := by
  obtain ⟨part, hpart, rfl⟩ := List.mem_map.1 h
  rw [String.toList_ofList]
  exact notMem_of_mem_splitOnP hpart

/-- Absolute paths are plain. -/
theorem plain_absolute {working : Path} (hw : Plain working) (s : String) :
    Plain (absolute working s) := by
  refine Plain.foldl_resolve ?_ fun c hc => slash_notMem_of_mem_split hc
  rw [origin]
  split
  · exact fun c hc => absurd hc List.not_mem_nil
  · exact hw

/-! ## The text of a path -/

/-- A way to write the root. -/
def IsRoot (root : String) : Prop := root = "/" ∨ root = "//"

theorem isRoot_rootOf (s : String) : IsRoot (rootOf s) := by
  rw [rootOf]
  split
  · exact .inr rfl
  · exact .inl rfl

/-- The text up to its last slash, without the slashes at its end unless it has nothing else. -/
def directoryPart (s : String) : String :=
  let front := s.toList.reverse.dropWhile (· != '/')
  String.ofList (if front.all (· == '/') then front else front.dropWhile (· == '/')).reverse

/-- The text of a name in a directory. -/
def join (directory name : String) : String :=
  if isAbsolute name then name
  else if directory = "" ∨ directory.toList.getLast? = some '/' then directory ++ name
  else directory ++ "/" ++ name

variable {root s : String}

theorem spelled_nil (root : String) : spelled root [] = root := by
  simp [spelled]

theorem spelled_singleton (root c : String) : spelled root [c] = root ++ c := by
  simp [spelled]

theorem spelled_concat (hp : p ≠ []) (root c : String) :
    spelled root (p ++ [c]) = spelled root p ++ "/" ++ c := by
  rw [spelled, spelled, String.intercalate_append_of_ne_nil hp (List.cons_ne_nil c []),
    String.intercalate_singleton]
  simp only [String.append_assoc]

/-- A text that ends in a name does not end in a slash. -/
theorem IsName.getLast?_append (hc : IsName c) (s : String) :
    ∃ x, x ≠ '/' ∧ (s ++ c).toList.getLast? = some x := by
  obtain ⟨hne, -, -, hslash⟩ := hc
  have hlist : c.toList ≠ [] := fun h => hne (String.toList_eq_nil_iff.1 h)
  refine ⟨c.toList.getLast hlist, fun h => hslash (h ▸ List.getLast_mem hlist), ?_⟩
  rw [String.toList_append, List.getLast?_append, List.getLast?_eq_some_getLast hlist,
    Option.some_or]

theorem Plain.getLast?_spelled (hp : Plain p) (hne : p ≠ []) (root : String) :
    ∃ x, x ≠ '/' ∧ (spelled root p).toList.getLast? = some x := by
  cases p using List.reverseRecOn with
  | nil => exact absurd rfl hne
  | append_singleton q c =>
    have hc := (plain_concat_iff.1 hp).2
    by_cases hq : q = []
    · subst hq
      rw [List.nil_append, spelled_singleton]
      exact hc.getLast?_append root
    · rw [spelled_concat hq]
      exact hc.getLast?_append (spelled root q ++ "/")

/-! ### Reading it back -/

theorem IsName.resolve (hc : IsName c) (p : Path) : p.resolve c = p ++ [c] := by
  obtain ⟨hne, hdot, hdots, -⟩ := hc
  simp [Path.resolve, hne, hdot, hdots]

theorem Plain.foldl_resolve_eq (hp : Plain p) (q : Path) : p.foldl Path.resolve q = q ++ p := by
  induction p generalizing q with
  | nil => simp
  | cons c rest ih =>
    rw [List.foldl_cons, (hp c List.mem_cons_self).resolve,
      ih fun d hd => hp d (List.mem_cons_of_mem c hd), List.append_assoc, List.singleton_append]

theorem split_slash_append (s : String) : split ("/" ++ s) = "" :: split s := by
  simp [split, List.splitOnP_cons_eq_if_modifyHead]

theorem Plain.split_intercalate (hp : Plain p) (hne : p ≠ []) :
    split ("/".intercalate p) = p := by
  have hparts : (['/'].intercalate (p.map String.toList)).splitOn '/' = p.map String.toList :=
    List.splitOn_intercalate '/' (by simpa using fun c hc => (hp c hc).2.2.2) (by simpa using hne)
  rw [split, String.toList_intercalate, ← List.splitOn_eq_splitOnP]
  change (List.splitOn '/' (['/'].intercalate (p.map String.toList))).map String.ofList = p
  rw [hparts, List.map_map]
  simp

theorem Plain.foldl_split_intercalate (hp : Plain p) :
    (split ("/".intercalate p)).foldl Path.resolve [] = p := by
  by_cases hne : p = []
  · subst hne
    decide
  · rw [hp.split_intercalate hne, hp.foldl_resolve_eq, List.nil_append]

/-- A plain path is read back from its text, from any directory. -/
theorem Plain.absolute_spelled (hp : Plain p) (hroot : IsRoot root) (directory : Path) :
    absolute directory (spelled root p) = p := by
  have hblank : Path.resolve [] "" = [] := rfl
  obtain rfl | rfl := hroot
  · rw [absolute, origin, spelled, split_slash_append]
    simp [isAbsolute, hblank, hp.foldl_split_intercalate]
  · have htext : spelled "//" p = "/" ++ ("/" ++ "/".intercalate p) := by
      rw [spelled, ← String.append_assoc]
      rfl
    rw [absolute, origin, htext, split_slash_append, split_slash_append]
    simp [isAbsolute, hblank, hp.foldl_split_intercalate]

/-! ### Going up and down -/

theorem dropWhile_reverse_append (front : List Char) {name : List Char} (hname : '/' ∉ name) :
    (front ++ '/' :: name).reverse.dropWhile (· != '/') = '/' :: front.reverse := by
  have hskip : ∀ x ∈ name.reverse, (x != '/') = true := by
    intro x hx
    exact bne_iff_ne.2 fun h => hname (h ▸ List.mem_reverse.1 hx)
  rw [List.reverse_append, List.reverse_cons, List.append_assoc,
    List.dropWhile_append_of_pos hskip]
  simp

/-- The directory part of a text whose last slash stands behind `front`. -/
theorem directoryPart_of_toList (front : List Char) {name : List Char}
    (hs : s.toList = front ++ '/' :: name) (hname : '/' ∉ name) :
    directoryPart s = String.ofList (if front.all (· == '/') then front ++ ['/']
      else (front.reverse.dropWhile (· == '/')).reverse) := by
  have hall : ('/' :: front.reverse).all (· == '/') = front.all (· == '/') := by simp
  rw [directoryPart, hs, dropWhile_reverse_append front hname, hall]
  by_cases h : front.all (· == '/') = true
  · rw [if_pos h, if_pos h, List.reverse_cons, List.reverse_reverse]
  · rw [if_neg h, if_neg h, List.dropWhile_cons_of_pos (by simp)]

theorem directoryPart_root_append (hroot : IsRoot root) (hc : '/' ∉ c.toList) :
    directoryPart (root ++ c) = root := by
  obtain rfl | rfl := hroot
  · rw [directoryPart_of_toList [] (by simp) hc]
    rfl
  · rw [directoryPart_of_toList ['/'] (by simp) hc]
    rfl

theorem directoryPart_append {x : Char} (hx : x ≠ '/') (hs : s.toList.getLast? = some x)
    (hc : '/' ∉ c.toList) : directoryPart (s ++ "/" ++ c) = s := by
  have hnotAll : ¬ s.toList.all (· == '/') = true := by
    intro hall
    have hmem := List.mem_of_getLast? hs
    exact hx (beq_iff_eq.1 (List.all_eq_true.1 hall x hmem))
  have hkept : s.toList.reverse.dropWhile (· == '/') = s.toList.reverse := by
    rw [← List.head?_reverse] at hs
    cases hrev : s.toList.reverse with
    | nil => rfl
    | cons y rest =>
      rw [hrev, List.head?_cons, Option.some.injEq] at hs
      rw [List.dropWhile_cons_of_neg (by simp [hs, hx])]
  rw [directoryPart_of_toList s.toList (by simp) hc, if_neg hnotAll, hkept, List.reverse_reverse,
    String.ofList_toList]

/-- The directory part of a path is the path without its last component. -/
theorem Plain.directoryPart_spelled (hp : Plain (p ++ [c])) (hroot : IsRoot root) :
    directoryPart (spelled root (p ++ [c])) = spelled root p := by
  obtain ⟨hfront, -, -, -, hslash⟩ := plain_concat_iff.1 hp
  by_cases hne : p = []
  · subst hne
    rw [List.nil_append, spelled_singleton, spelled_nil, directoryPart_root_append hroot hslash]
  · obtain ⟨x, hx, hlast⟩ := hfront.getLast?_spelled hne root
    rw [spelled_concat hne, directoryPart_append hx hlast hslash]

theorem directoryPart_root (hroot : IsRoot root) : directoryPart root = root := by
  have h := directoryPart_root_append hroot (c := "") (by simp)
  rwa [String.append_empty] at h

theorem Plain.directoryPart_ne (hp : Plain (p ++ [c])) (hroot : IsRoot root) :
    directoryPart (spelled root (p ++ [c])) ≠ spelled root (p ++ [c]) := by
  rw [hp.directoryPart_spelled hroot]
  intro heq
  have hread := congrArg (absolute []) heq
  rw [(plain_concat_iff.1 hp).1.absolute_spelled hroot, hp.absolute_spelled hroot] at hread
  simpa using congrArg List.length hread

theorem IsName.isAbsolute_eq (hc : IsName c) : isAbsolute c = false := by
  obtain ⟨-, -, -, hslash⟩ := hc
  rw [isAbsolute, beq_eq_false_iff_ne]
  exact fun h => hslash (List.mem_of_head? h)

/-- A name in a directory is one more component. -/
theorem Plain.join_spelled (hp : Plain p) (hroot : IsRoot root) (hc : IsName c) :
    join (spelled root p) c = spelled root (p ++ [c]) := by
  rw [join, hc.isAbsolute_eq, if_neg Bool.false_ne_true]
  by_cases hne : p = []
  · subst hne
    have hslash : root.toList.getLast? = some '/' := by
      obtain rfl | rfl := hroot <;> rfl
    rw [spelled_nil, if_pos (.inr hslash), List.nil_append, spelled_singleton]
  · obtain ⟨x, hx, hlast⟩ := hp.getLast?_spelled hne root
    have hnone : ¬ (spelled root p = "" ∨ (spelled root p).toList.getLast? = some '/') := by
      rintro (h | h)
      · simp [h] at hlast
      · exact hx (Option.some.inj (hlast.symm.trans h))
    rw [if_neg hnone, spelled_concat hne]

end Path

/-- Whether a text names a file from the working directory. -/
def FileTree.isFileAt (t : FileTree) (path : String) : Bool :=
  t.isFile (Path.absolute t.working path)

namespace Settings

variable {t : FileTree} {p q start directory : Path} {root name : String}

/-! ## The search -/

/-- What the search from a directory ends with: the first of the names that is a file there, else
what the search from the directory above ends with, and nothing if there is no directory above. -/
inductive Climbs (isFile : String → Bool) : String → Option String → Prop
  | found {directory path : String}
      (h : (fileNames.map (Path.join directory)).find? isFile = some path) :
      Climbs isFile directory (some path)
  | top {directory : String}
      (h : (fileNames.map (Path.join directory)).find? isFile = none)
      (htop : Path.directoryPart directory = directory) :
      Climbs isFile directory none
  | up {directory : String} {result : Option String}
      (h : (fileNames.map (Path.join directory)).find? isFile = none)
      (hup : Path.directoryPart directory ≠ directory)
      (hrest : Climbs isFile (Path.directoryPart directory) result) :
      Climbs isFile directory result

theorem Climbs.unique {isFile : String → Bool} {d : String} {r r' : Option String}
    (h : Climbs isFile d r) (h' : Climbs isFile d r') : r = r' := by
  induction h generalizing r' with
  | found h =>
    cases h' with
    | found h' => exact h.symm.trans h'
    | top h' | up h' => exact absurd (h.symm.trans h') (Option.some_ne_none _)
  | top h htop =>
    cases h' with
    | found h' => exact absurd (h'.symm.trans h) (Option.some_ne_none _)
    | top => rfl
    | up _ hup => exact absurd htop hup
  | up h hup _ ih =>
    cases h' with
    | found h' => exact absurd (h'.symm.trans h) (Option.some_ne_none _)
    | top _ htop => exact absurd htop hup
    | up _ _ hrest => exact ih hrest

theorem candidates_nil : candidates [] = fileNames.map fun name => [] ++ [name] := by
  rw [candidates, Path.ancestors_nil, List.flatMap_singleton]

theorem candidates_concat (p : Path) (c : String) :
    candidates (p ++ [c]) = (fileNames.map fun name => p ++ [c] ++ [name]) ++ candidates p := by
  rw [candidates, Path.ancestors_concat, List.flatMap_cons, ← candidates]

theorem isName_of_mem_fileNames (h : name ∈ fileNames) : Path.IsName name := by
  revert name
  decide

/-- The names of one directory, looked for by text and by path. -/
theorem find?_join_spelled (t : FileTree) (hp : p.Plain) (hroot : Path.IsRoot root) :
    (fileNames.map (Path.join (Path.spelled root p))).find? t.isFileAt =
      ((fileNames.map fun name => p ++ [name]).find? t.isFile).map (Path.spelled root) := by
  have htexts : fileNames.map (Path.join (Path.spelled root p)) =
      (fileNames.map fun name => p ++ [name]).map (Path.spelled root) := by
    rw [List.map_map]
    exact List.map_congr_left fun name hname =>
      hp.join_spelled hroot (isName_of_mem_fileNames hname)
  rw [htexts, List.find?_map]
  refine congrArg (Option.map (Path.spelled root)) (List.find?_congr fun q hq => ?_)
  obtain ⟨name, hname, rfl⟩ := List.mem_map.1 hq
  have hplain := Path.plain_concat_iff.2 ⟨hp, isName_of_mem_fileNames hname⟩
  rw [Function.comp_apply, FileTree.isFileAt, hplain.absolute_spelled hroot]

/-- The search through the texts of a plain path goes through its candidates. -/
theorem climbs_spelled (t : FileTree) (hp : p.Plain) (hroot : Path.IsRoot root) :
    Climbs t.isFileAt (Path.spelled root p)
      (((candidates p).find? t.isFile).map (Path.spelled root)) := by
  induction p using List.reverseRecOn with
  | nil =>
    have hnames := find?_join_spelled t hp hroot
    rw [candidates_nil]
    cases hfind : (fileNames.map fun name => [] ++ [name]).find? t.isFile with
    | some q => exact .found (by rw [hnames, hfind, Option.map_some])
    | none =>
      refine .top (by rw [hnames, hfind, Option.map_none]) ?_
      rw [Path.spelled_nil, Path.directoryPart_root hroot]
  | append_singleton p c ih =>
    have hnames := find?_join_spelled t hp hroot
    rw [candidates_concat, List.find?_append]
    cases hfind : (fileNames.map fun name => p ++ [c] ++ [name]).find? t.isFile with
    | some q =>
      rw [Option.some_or]
      exact .found (by rw [hnames, hfind, Option.map_some])
    | none =>
      rw [Option.none_or]
      refine .up (by rw [hnames, hfind, Option.map_none]) (hp.directoryPart_ne hroot) ?_
      rw [hp.directoryPart_spelled hroot]
      exact ih (Path.plain_concat_iff.1 hp).1

/-! ## The nearest file -/

/-- The settings file of a name in a directory is the nearest one from a start. -/
structure IsNearest (t : FileTree) (start directory : Path) (name : String) : Prop where
  above : directory <+: start
  named : name ∈ fileNames
  isFile : t.isFile (directory ++ [name]) = true
  /-- No directory in between has a settings file. -/
  nearest : ∀ nearer other, nearer <+: start → directory.length < nearer.length →
    other ∈ fileNames → t.isFile (nearer ++ [other]) = false
  /-- No name before it is a file in the same directory. -/
  preferred : ∀ other ∈ fileNames, fileNames.idxOf other < fileNames.idxOf name →
    t.isFile (directory ++ [other]) = false

/-- The first element of a kind, said by positions. -/
theorem find?_eq_some_iff_idxOf {α : Type} [DecidableEq α] {f : α → Bool} {l : List α} {a : α} :
    l.find? f = some a ↔
      a ∈ l ∧ f a = true ∧ ∀ b ∈ l, l.idxOf b < l.idxOf a → f b = false := by
  induction l with
  | nil => simp
  | cons x l ih => grind

theorem find?_fileNames_eq_some_iff :
    (fileNames.map fun name => directory ++ [name]).find? t.isFile = some q ↔
      ∃ name, q = directory ++ [name] ∧ name ∈ fileNames ∧
        t.isFile (directory ++ [name]) = true ∧
        ∀ other ∈ fileNames, fileNames.idxOf other < fileNames.idxOf name →
          t.isFile (directory ++ [other]) = false := by
  rw [List.find?_map, Option.map_eq_some_iff]
  refine exists_congr fun name => ?_
  rw [find?_eq_some_iff_idxOf, and_comm, eq_comm]
  rfl

theorem find?_fileNames_eq_none_iff :
    (fileNames.map fun name => directory ++ [name]).find? t.isFile = none ↔
      ∀ name ∈ fileNames, t.isFile (directory ++ [name]) = false := by
  simp [List.find?_map]

/-- The search through the paths above a path finds what the longest one gives that gives
something. -/
theorem findSome?_ancestors_eq_some_iff {α : Type} {f : Path → Option α} {a : α} :
    start.ancestors.findSome? f = some a ↔
      ∃ directory, directory <+: start ∧ f directory = some a ∧
        ∀ nearer, nearer <+: start → directory.length < nearer.length → f nearer = none := by
  have hordered := Path.ancestors_pairwise start
  rw [List.findSome?_eq_some_iff]
  constructor
  · rintro ⟨before, directory, behind, hsplit, hfound, hnone⟩
    have habove : directory ∈ start.ancestors := by simp [hsplit]
    refine ⟨directory, Path.mem_ancestors.1 habove, hfound, fun nearer hnearer hlonger => ?_⟩
    have hmem := Path.mem_ancestors.2 hnearer
    rw [hsplit] at hmem hordered
    obtain hmem | rfl | hmem : nearer ∈ before ∨ nearer = directory ∨ nearer ∈ behind := by
      simpa using hmem
    · exact hnone nearer hmem
    · exact absurd hlonger (Nat.lt_irrefl _)
    · have hshorter := (List.pairwise_cons.1 (List.pairwise_append.1 hordered).2.1).1 nearer hmem
      omega
  · rintro ⟨directory, habove, hfound, hnone⟩
    obtain ⟨before, behind, hsplit⟩ := List.append_of_mem (Path.mem_ancestors.2 habove)
    refine ⟨before, directory, behind, hsplit, hfound, fun nearer hmem => ?_⟩
    have hnearer : nearer ∈ start.ancestors := by simp [hsplit, hmem]
    rw [hsplit] at hordered
    exact hnone nearer (Path.mem_ancestors.1 hnearer)
      ((List.pairwise_append.1 hordered).2.2 nearer hmem directory List.mem_cons_self)

theorem find?_candidates_eq_some_iff :
    (candidates start).find? t.isFile = some q ↔
      ∃ directory name, q = directory ++ [name] ∧ IsNearest t start directory name := by
  rw [candidates, List.find?_flatMap, findSome?_ancestors_eq_some_iff]
  constructor
  · rintro ⟨directory, habove, hfound, hnone⟩
    obtain ⟨name, rfl, hnamed, hfile, hpreferred⟩ := find?_fileNames_eq_some_iff.1 hfound
    refine ⟨directory, name, rfl, habove, hnamed, hfile, ?_, hpreferred⟩
    intro nearer other hnearer hlonger
    exact find?_fileNames_eq_none_iff.1 (hnone nearer hnearer hlonger) other
  · rintro ⟨directory, name, rfl, h⟩
    refine ⟨directory, h.above,
      find?_fileNames_eq_some_iff.2 ⟨name, rfl, h.named, h.isFile, h.preferred⟩, ?_⟩
    intro nearer hnearer hlonger
    exact find?_fileNames_eq_none_iff.2 fun other => h.nearest nearer other hnearer hlonger

theorem find?_candidates_eq_none_iff :
    (candidates start).find? t.isFile = none ↔
      ∀ directory name, directory <+: start → name ∈ fileNames →
        t.isFile (directory ++ [name]) = false := by
  rw [candidates, List.find?_flatMap, List.findSome?_eq_none_iff]
  simp only [find?_fileNames_eq_none_iff, Path.mem_ancestors]
  exact ⟨fun h directory name habove => h directory habove name,
    fun h directory habove name => h directory name habove⟩

/-- From every start the search ends, and it ends with the nearest settings file. -/
theorem find?_nearest (t : FileTree) (hworking : t.working.Plain) (start : String) :
    (∀ result, Climbs t.isFileAt
        (Path.spelled (Path.rootOf start) (Path.absolute t.working start)) result ↔
      result = (find? t start).map (Path.spelled (Path.rootOf start))) ∧
    (Path.absolute t.working start).Plain ∧
    (∀ path, find? t start = some path ↔ ∃ directory name,
      path = directory ++ [name] ∧
        IsNearest t (Path.absolute t.working start) directory name) ∧
    (find? t start = none ↔ ∀ directory name, directory <+: Path.absolute t.working start →
      name ∈ fileNames → t.isFile (directory ++ [name]) = false) := by
  have hplain := Path.plain_absolute hworking start
  have hclimb := climbs_spelled t hplain (Path.isRoot_rootOf start)
  exact ⟨fun result => ⟨fun h => h.unique hclimb, fun h => h ▸ hclimb⟩, hplain,
    fun path => find?_candidates_eq_some_iff, find?_candidates_eq_none_iff⟩

/-- A directory with one of the names on the way, and two files in one directory above it. -/
def nestedTree : FileTree :=
  { working := ["w"]
    entries := [(["w", "a", ".wpcalcrc.yml"], .directory), (["w", ".wpcalcrc.json"], .file []),
      (["w", ".wpcalcrc.yaml"], .file []), ([".wpcalcrc.yml"], .file [])] }

theorem find?_nearest_above_directory :
    nestedTree.working.Plain ∧
      Climbs nestedTree.isFileAt "/w/a" (some "/w/.wpcalcrc.yaml") ∧
      IsNearest nestedTree ["w", "a"] ["w"] ".wpcalcrc.yaml" := by
  have hplain : nestedTree.working.Plain := by decide
  obtain ⟨hclimb, -, hsome, -⟩ := find?_nearest nestedTree hplain "b/.././a"
  have hstart : Path.absolute nestedTree.working "b/.././a" = ["w", "a"] := by decide +kernel
  have hfound : find? nestedTree "b/.././a" = some ["w", ".wpcalcrc.yaml"] := by decide +kernel
  obtain ⟨directory, name, hpath, hnearest⟩ := (hsome _).1 hfound
  have hparts : ["w"] ++ [".wpcalcrc.yaml"] = directory ++ [name] := hpath
  obtain ⟨rfl, hname⟩ := List.append_inj' hparts rfl
  obtain rfl := List.singleton_inj.1 hname
  rw [hstart] at hclimb hnearest
  rw [hfound] at hclimb
  exact ⟨hplain, (hclimb _).2 rfl, hnearest⟩

end Settings

end WeakestPre
