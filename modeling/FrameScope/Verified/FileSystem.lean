import FrameScope.Verified.KeyedTable

/-!
# Directory trees with symbolic links

A tree is the list of its objects, each at its location: the path through real
directories alone.  Paths are written the last name first, so that `name :: p`
is the entry `name` of `p`.  Every object stands in a real directory, and no two
objects stand at one location; both are fields of the tree.

A path that a program names need not be a location, since a directory on its way
can be a symbolic link.  `LinkResolution` says where the system finds the
directory that a link leads to, if it finds one; nothing is assumed of it, so
links may lead anywhere in the tree, form cycles, or lead nowhere.

A `Region` is a set of locations that holds with a location all that is below it.
Removing a region is the one way these programs change a tree.
-/

namespace FrameScope.Verified.FileSystem

open FrameScope.Verified.KeyedTable

/-- A path, the last name first. -/
abbrev Path := List String

/-- Bytes that a file offset can address. -/
structure Payload where
  bytes : List UInt8
  length_lt : bytes.length < 2 ^ 63

/-- A file of any kind, a symbolic link with the text of its target, or a directory. -/
inductive Object where
  | file (content : Payload)
  | link (target : Payload)
  | dir

/-- The length that the metadata of a file or link reports. -/
def Object.len : Object → Nat
  | .file content => content.bytes.length
  | .link target => target.bytes.length
  | .dir => 0

theorem Object.len_lt (o : Object) : o.len < 2 ^ 63 := by
  cases o with
  | file content => exact content.length_lt
  | link target => exact target.length_lt
  | dir => exact Nat.two_pow_pos 63

structure FileTree where
  objects : List (Path × Object)
  unique : (objects.map (·.1)).Nodup
  parents : ∀ name p o, (name :: p, o) ∈ objects → (p, Object.dir) ∈ objects

def Object.isDir : Object → Bool
  | .dir => true
  | _ => false

/-- The parents of all listed objects are listed as directories. -/
def parentsListed (objects : List (Path × Object)) : Bool :=
  objects.all fun x => x.1 = [] || objects.any fun y => y.1 = x.1.tail && y.2.isDir

theorem parents_of_listed {objects : List (Path × Object)} (h : parentsListed objects = true) :
    ∀ name p o, (name :: p, o) ∈ objects → (p, Object.dir) ∈ objects := by
  intro name p o hMem
  have hEach := List.all_eq_true.1 h (name :: p, o) hMem
  rw [Bool.or_eq_true, decide_eq_true_eq] at hEach
  obtain ⟨⟨q, parent⟩, hParent, hBoth⟩ := List.any_eq_true.1 (hEach.resolve_left (List.cons_ne_nil _ _))
  rw [Bool.and_eq_true, decide_eq_true_eq] at hBoth
  obtain ⟨hPath, hDir⟩ := hBoth
  cases parent with
  | dir =>
      change q = p at hPath
      rwa [hPath] at hParent
  | file content => cases hDir
  | link target => cases hDir

/-- The object at a location. -/
def FileTree.at (t : FileTree) (p : Path) : Option Object :=
  (t.objects.find? fun x => x.1 = p).map (·.2)

/-- The name that `p` is an entry of `d` under. -/
def childName (d : Path) : Path → Option String
  | [] => none
  | name :: p => if p = d then some name else none

/-- The entries of a directory, in the order of the tree. -/
def FileTree.children (t : FileTree) (d : Path) : List String :=
  t.objects.filterMap fun x => childName d x.1

/-- No location is longer. -/
def FileTree.height (t : FileTree) : Nat := (t.objects.map (·.1.length)).foldr max 0

section Lookup

variable {t : FileTree} {p d : Path} {o : Object} {name : String}

theorem childName_eq_some : childName d p = some name ↔ p = name :: d := by
  cases p with
  | nil => simp [childName]
  | cons m p =>
      unfold childName
      by_cases h : p = d
      · simp [h]
      · simp [h]

theorem at_eq_some : t.at p = some o ↔ (p, o) ∈ t.objects := by
  unfold FileTree.at
  rw [Option.map_eq_some_iff]
  constructor
  · rintro ⟨x, hFind, rfl⟩
    obtain ⟨hMem, rfl⟩ := (find?_key_eq_some t.unique).1 hFind
    exact hMem
  · intro hMem
    exact ⟨(p, o), (find?_key_eq_some t.unique).2 ⟨hMem, rfl⟩, rfl⟩

theorem at_eq_none : t.at p = none ↔ ∀ o, (p, o) ∉ t.objects := by
  constructor
  · intro h o hMem
    rw [at_eq_some.2 hMem] at h
    cases h
  · intro h
    cases hAt : t.at p with
    | none => rfl
    | some o => exact absurd (at_eq_some.1 hAt) (h o)

theorem mem_children : name ∈ t.children d ↔ ∃ o, t.at (name :: d) = some o := by
  unfold FileTree.children
  rw [List.mem_filterMap]
  constructor
  · rintro ⟨⟨p, o⟩, hMem, hName⟩
    rw [childName_eq_some] at hName
    refine ⟨o, at_eq_some.2 ?_⟩
    rw [← hName]
    exact hMem
  · rintro ⟨o, hAt⟩
    exact ⟨_, at_eq_some.1 hAt, childName_eq_some.2 rfl⟩

/-- A directory lists every entry once. -/
theorem nodup_children (t : FileTree) (d : Path) : (t.children d).Nodup := by
  have hMap : t.children d = (t.objects.map (·.1)).filterMap (childName d) := by
    rw [List.filterMap_map]
    rfl
  rw [hMap]
  apply t.unique.filterMap
  intro p q name hp hq
  rw [Option.mem_def, childName_eq_some] at hp hq
  rw [hp, hq]

/-- What stands anywhere stands in directories all the way down. -/
theorem dir_of_suffix (h : t.at p = some o) {q : Path} (hSuffix : q <:+ p) (hNe : q ≠ p) :
    t.at q = some .dir := by
  induction p generalizing o with
  | nil => exact absurd (List.suffix_nil.1 hSuffix) hNe
  | cons name p ih =>
      have hParent : t.at p = some .dir := at_eq_some.2 (t.parents name p o (at_eq_some.1 h))
      rcases List.suffix_cons_iff.1 hSuffix with hEq | hBelow
      · exact absurd hEq hNe
      · by_cases hSame : q = p
        · rw [hSame]
          exact hParent
        · exact ih hParent hBelow hSame

theorem le_foldr_max {l : List Nat} {n : Nat} (h : n ∈ l) : n ≤ l.foldr max 0 := by
  induction l with
  | nil => cases h
  | cons m l ih =>
      rw [List.foldr_cons]
      rcases List.mem_cons.1 h with rfl | hRest
      · exact Nat.le_max_left ..
      · exact (ih hRest).trans (Nat.le_max_right ..)

theorem length_le_height (h : t.at p = some o) : p.length ≤ t.height :=
  le_foldr_max (List.mem_map.2 ⟨(p, o), at_eq_some.1 h, rfl⟩)

end Lookup

/-! ## Regions -/

/-- A set of locations with all that is below them. -/
structure Region where
  mem : Path → Bool
  below : ∀ name p, mem p = true → mem (name :: p) = true

/-- The location and all that is below it. -/
def Region.under (loc : Path) : Region where
  mem := fun p => decide (loc <:+ p)
  below := fun name p h => by
    rw [decide_eq_true_eq] at h ⊢
    exact h.trans (List.suffix_cons name p)

def Region.empty : Region where
  mem := fun _ => false
  below := fun _ _ h => h

def Region.union (A B : Region) : Region where
  mem := fun p => A.mem p || B.mem p
  below := fun name p h => by
    rw [Bool.or_eq_true] at h ⊢
    exact h.imp (A.below name p) (B.below name p)

/-- The locations below one of `locs`, or at it. -/
def Region.underAny : List Path → Region
  | [] => .empty
  | loc :: locs => (Region.under loc).union (underAny locs)

/-- The entry of `d` that a location is, or is below. -/
def entryBelow (d : Path) : Path → Option String
  | [] => none
  | name :: p => if p = d then some name else entryBelow d p

theorem entryBelow_eq_some {d p : Path} {name : String} :
    entryBelow d p = some name ↔ name :: d <:+ p := by
  induction p with
  | nil => simp [entryBelow]
  | cons m p ih =>
      rw [List.suffix_cons_iff]
      unfold entryBelow
      by_cases h : p = d
      · subst h
        rw [if_pos rfl, Option.some.injEq, List.cons.injEq]
        constructor
        · rintro rfl
          exact .inl ⟨rfl, rfl⟩
        · rintro (⟨rfl, -⟩ | hBelow)
          · rfl
          · have := hBelow.length_le
            rw [List.length_cons] at this
            omega
      · rw [if_neg h, ih]
        constructor
        · exact .inr
        · rintro (hEq | hBelow)
          · rw [List.cons.injEq] at hEq
            exact absurd hEq.2.symm h
          · exact hBelow

/-- The entries of `d` that `q` picks, with all that is below them. -/
def Region.entries (d : Path) (q : String → Bool) : Region where
  mem := fun p => (entryBelow d p).any q
  below := fun name p h => by
    rw [Option.any_eq_true] at h ⊢
    obtain ⟨entry, hEntry, hq⟩ := h
    refine ⟨entry, ?_, hq⟩
    rw [entryBelow_eq_some] at hEntry ⊢
    exact hEntry.trans (List.suffix_cons name p)

/-- Every location of `A` is one of `B`. -/
def Region.Within (A B : Region) : Prop := ∀ p, A.mem p = true → B.mem p = true

/-- The tree without the objects of a region. -/
def FileTree.without (t : FileTree) (A : Region) : FileTree where
  objects := t.objects.filter fun x => !A.mem x.1
  unique := (List.filter_sublist.map _).nodup t.unique
  parents := by
    intro name p o hMem
    rw [List.mem_filter] at hMem ⊢
    refine ⟨t.parents name p o hMem.1, ?_⟩
    rw [Bool.not_eq_true']
    cases hp : A.mem p with
    | false => rfl
    | true =>
        have hBelow := A.below name p hp
        rw [hBelow] at hMem
        exact absurd hMem.2 (by simp)

section Regions

variable {t : FileTree} {p q d loc : Path} {o : Object} {A B : Region}

@[simp] theorem mem_under : (Region.under loc).mem p = true ↔ loc <:+ p := by
  simp [Region.under]

@[simp] theorem mem_empty : Region.empty.mem p = false := rfl

@[simp] theorem mem_union : (A.union B).mem p = (A.mem p || B.mem p) := rfl

theorem mem_underAny {locs : List Path} :
    (Region.underAny locs).mem p = true ↔ ∃ loc ∈ locs, loc <:+ p := by
  induction locs with
  | nil => simp [Region.underAny]
  | cons loc locs ih => simp [Region.underAny, ih]

theorem mem_entries {q : String → Bool} :
    (Region.entries d q).mem p = true ↔ ∃ name, q name = true ∧ name :: d <:+ p := by
  show (entryBelow d p).any q = true ↔ _
  rw [Option.any_eq_true]
  constructor
  · rintro ⟨name, hEntry, hq⟩
    exact ⟨name, hq, entryBelow_eq_some.1 hEntry⟩
  · rintro ⟨name, hq, hBelow⟩
    exact ⟨name, entryBelow_eq_some.2 hBelow, hq⟩

/-- A location is below one entry of a directory at most. -/
theorem entry_unique {m n : String} (hm : m :: d <:+ p) (hn : n :: d <:+ p) : m = n := by
  have hSame := (entryBelow_eq_some.2 hm).symm.trans (entryBelow_eq_some.2 hn)
  exact Option.some.inj hSame

theorem not_suffix_of_entry (d : Path) (name : String) : ¬ name :: d <:+ d := by
  intro h
  have := h.length_le
  rw [List.length_cons] at this
  omega

/-- What stands below a directory is one of its entries, or is below one. -/
theorem exists_entry (hAt : t.at p = some o) (hBelow : d <:+ p) (hNe : p ≠ d) :
    ∃ name ∈ t.children d, name :: d <:+ p := by
  induction p generalizing o with
  | nil => exact absurd (List.suffix_nil.1 hBelow).symm hNe
  | cons m p ih =>
      rcases List.suffix_cons_iff.1 hBelow with hEq | hDeeper
      · exact absurd hEq.symm hNe
      · by_cases hHere : p = d
        · subst hHere
          exact ⟨m, mem_children.2 ⟨o, hAt⟩, List.suffix_refl _⟩
        · have hParent := t.parents m p o (at_eq_some.1 hAt)
          obtain ⟨name, hName, hSuffix⟩ := ih (at_eq_some.2 hParent) hDeeper hHere
          exact ⟨name, hName, hSuffix.trans (List.suffix_cons m p)⟩

/-- Nothing stands below what is not there. -/
theorem not_mem_under_of_none (hNone : t.at loc = none) (hAt : t.at p = some o) :
    (Region.under loc).mem p = false := by
  rw [Bool.eq_false_iff]
  intro hMem
  rw [mem_under] at hMem
  by_cases hSame : loc = p
  · rw [hSame, hAt] at hNone
    cases hNone
  · rw [dir_of_suffix hAt hMem hSame] at hNone
    cases hNone

/-- Nothing stands below a file or a link. -/
theorem eq_of_mem_under (hLeaf : t.at loc ≠ some .dir) (hAt : t.at p = some o)
    (hMem : (Region.under loc).mem p = true) : p = loc := by
  by_contra hNe
  exact hLeaf (dir_of_suffix hAt (mem_under.1 hMem) (Ne.symm hNe))

theorem eq_of_objects {t t' : FileTree} (h : t.objects = t'.objects) : t = t' := by
  cases t with
  | mk objects unique parents =>
      cases t' with
      | mk objects' unique' parents' =>
          cases h
          rfl

@[simp] theorem without_without : (t.without A).without B = t.without (A.union B) := by
  apply eq_of_objects
  show (t.objects.filter _).filter _ = t.objects.filter _
  rw [List.filter_filter]
  apply List.filter_congr
  intro x _
  simp [Bool.and_comm]

/-- Only the objects that stand in a region matter. -/
theorem without_congr (h : ∀ p o, t.at p = some o → A.mem p = B.mem p) :
    t.without A = t.without B := by
  apply eq_of_objects
  show t.objects.filter _ = t.objects.filter _
  apply List.filter_congr
  intro x hx
  rw [h x.1 x.2 (at_eq_some.2 hx)]

theorem without_eq_self (h : ∀ p o, t.at p = some o → A.mem p = false) : t.without A = t := by
  apply eq_of_objects
  show t.objects.filter _ = t.objects
  rw [List.filter_eq_self]
  intro x hx
  rw [h x.1 x.2 (at_eq_some.2 hx)]
  rfl

@[simp] theorem without_empty : t.without .empty = t := without_eq_self fun _ _ _ => rfl

/-- What is left stands as it stood, and the region is empty. -/
theorem at_without (t : FileTree) (A : Region) (p : Path) :
    (t.without A).at p = if A.mem p = true then none else t.at p := by
  cases hAt : (t.without A).at p with
  | some o =>
      have hMem : (p, o) ∈ t.objects.filter fun x => !A.mem x.1 := at_eq_some.1 hAt
      rw [List.mem_filter] at hMem
      have hOut : A.mem p = false := by simpa using hMem.2
      rw [if_neg (by rw [hOut]; exact Bool.false_ne_true), at_eq_some.2 hMem.1]
  | none =>
      by_cases hIn : A.mem p = true
      · rw [if_pos hIn]
      · rw [if_neg hIn]
        symm
        rw [at_eq_none]
        intro o hMem
        refine at_eq_none.1 hAt o (List.mem_filter.2 ⟨hMem, ?_⟩)
        simpa using hIn

theorem at_without_of_not_mem (h : A.mem p = false) : (t.without A).at p = t.at p := by
  rw [at_without, h, if_neg Bool.false_ne_true]

theorem at_without_eq_some (h : (t.without A).at p = some o) : t.at p = some o := by
  rw [at_without] at h
  by_cases hIn : A.mem p = true
  · rw [if_pos hIn] at h
    cases h
  · rwa [if_neg hIn] at h

theorem height_without_le (t : FileTree) (A : Region) : (t.without A).height ≤ t.height := by
  unfold FileTree.height
  show ((t.objects.filter _).map _).foldr max 0 ≤ _
  induction t.objects with
  | nil => exact le_refl _
  | cons x rest ih =>
      rw [List.map_cons, List.foldr_cons, List.filter_cons]
      split
      · rw [List.map_cons, List.foldr_cons]
        omega
      · omega

end Regions

/-! ## What a region holds -/

/-- The weight of the objects that stand in a region. -/
def FileTree.total (t : FileTree) (w : Object → Nat) (A : Region) : Nat :=
  (t.objects.map fun x => if A.mem x.1 = true then w x.2 else 0).sum

section Totals

variable {t : FileTree} {w w' : Object → Nat} {A B : Region} {p : Path} {o : Object}

theorem total_congr (h : ∀ p o, t.at p = some o →
      (if A.mem p = true then w o else 0) = if B.mem p = true then w' o else 0) :
    t.total w A = t.total w' B := by
  unfold FileTree.total
  congr 1
  apply List.map_congr_left
  intro x hx
  exact h x.1 x.2 (at_eq_some.2 hx)

/-- What is left after a removal. -/
theorem total_without (t : FileTree) (w : Object → Nat) (A B : Region) :
    (t.without A).total w B =
      (t.objects.map fun x =>
        if A.mem x.1 = true then 0 else if B.mem x.1 = true then w x.2 else 0).sum := by
  show ((t.objects.filter fun x => !A.mem x.1).map _).sum = _
  induction t.objects with
  | nil => rfl
  | cons x rest ih =>
      by_cases hx : A.mem x.1 = true
      · simp [hx, ih]
      · simp [hx, ih]

/-- Two regions hold what the first one holds and what is then left of the second. -/
theorem total_union (t : FileTree) (w : Object → Nat) (A B : Region) :
    t.total w (A.union B) = t.total w A + (t.without A).total w B := by
  rw [total_without]
  unfold FileTree.total
  rw [← List.sum_map_add]
  congr 1
  apply List.map_congr_left
  intro x _
  by_cases hx : A.mem x.1 = true
  · simp [hx]
  · simp [hx]

theorem total_without_of_disjoint (h : ∀ p, A.mem p = true → B.mem p = false) :
    (t.without A).total w B = t.total w B := by
  rw [total_without]
  unfold FileTree.total
  congr 1
  apply List.map_congr_left
  intro x _
  by_cases hx : A.mem x.1 = true
  · simp [hx, h x.1 hx]
  · simp [hx]

theorem total_le (h : ∀ p o, t.at p = some o →
      (if A.mem p = true then w o else 0) ≤ if B.mem p = true then w' o else 0) :
    t.total w A ≤ t.total w' B := by
  unfold FileTree.total
  apply List.sum_le_sum
  intro x hx
  exact h x.1 x.2 (at_eq_some.2 hx)

theorem total_eq_zero (h : ∀ p o, t.at p = some o → A.mem p = false) : t.total w A = 0 := by
  have hEmpty : t.total w A = t.total (fun _ => 0) A := by
    apply total_congr
    intro p o hAt
    rw [h p o hAt]
    rfl
  rw [hEmpty]
  simp [FileTree.total]

/-- Nothing is left of a region that was removed. -/
theorem total_without_self (t : FileTree) (w : Object → Nat) (A : Region) :
    (t.without A).total w A = 0 := by
  apply total_eq_zero
  intro p o hAt
  rw [at_without] at hAt
  by_cases hIn : A.mem p = true
  · rw [if_pos hIn] at hAt
    cases hAt
  · simpa using hIn

/-- An object counts in every region it stands in. -/
theorem le_total (hAt : t.at p = some o) (hIn : A.mem p = true) : w o ≤ t.total w A := by
  apply List.le_sum_of_mem
  rw [List.mem_map]
  exact ⟨(p, o), at_eq_some.1 hAt, if_pos hIn⟩

/-- A file or a link counts alone. -/
theorem total_under_leaf (hAt : t.at p = some o) (hLeaf : o ≠ .dir) :
    t.total w (.under p) = w o := by
  have hNot : t.at p ≠ some .dir := by
    rw [hAt]
    intro h
    exact hLeaf (Option.some.inj h)
  have hPerm := perm_cons_filter_ne t.unique (at_eq_some.1 hAt)
  have hRest : ∀ n ∈ (t.objects.filter fun x => x.1 ≠ p).map (fun x =>
      if (Region.under p).mem x.1 = true then w x.2 else 0), n = 0 := by
    intro n hn
    obtain ⟨x, hx, rfl⟩ := List.mem_map.1 hn
    rw [List.mem_filter] at hx
    apply if_neg
    intro hMem
    exact of_decide_eq_true hx.2 (eq_of_mem_under hNot (at_eq_some.2 hx.1) hMem)
  unfold FileTree.total
  rw [(hPerm.map _).sum_eq, List.map_cons, List.sum_cons, List.sum_eq_zero hRest,
    if_pos (mem_under.2 (List.suffix_refl p)), Nat.add_zero]

/-- A directory counts what its entries count, when directories weigh nothing. -/
theorem total_under_dir (hAt : t.at p = some .dir) (hZero : w .dir = 0) :
    t.total w (.under p) = t.total w (.underAny ((t.children p).map (· :: p))) := by
  apply total_congr
  intro q o hq
  by_cases hSame : q = p
  · subst hSame
    rw [hq] at hAt
    cases hAt
    simp [hZero]
  · have hIff : (Region.under p).mem q = true ↔
        (Region.underAny ((t.children p).map (· :: p))).mem q = true := by
      rw [mem_under, mem_underAny]
      constructor
      · intro hBelow
        obtain ⟨name, hName, hSuffix⟩ := exists_entry hq hBelow hSame
        exact ⟨name :: p, List.mem_map.2 ⟨name, hName, rfl⟩, hSuffix⟩
      · rintro ⟨_, hLoc, hSuffix⟩
        obtain ⟨name, -, rfl⟩ := List.mem_map.1 hLoc
        exact (List.suffix_cons name p).trans hSuffix
    simp only [hIff]

/-- Different entries hold different objects. -/
theorem total_underAny_cons {name : String} {names : List String} {d : Path}
    (h : name ∉ names) :
    t.total w (.underAny ((name :: names).map (· :: d))) =
      t.total w (.under (name :: d)) + t.total w (.underAny (names.map (· :: d))) := by
  show t.total w ((Region.under (name :: d)).union _) = _
  rw [total_union, total_without_of_disjoint]
  intro q hq
  rw [Bool.eq_false_iff]
  intro hOther
  obtain ⟨_, hLoc, hSuffix⟩ := mem_underAny.1 hOther
  obtain ⟨m, hm, rfl⟩ := List.mem_map.1 hLoc
  rw [entry_unique (mem_under.1 hq) hSuffix] at h
  exact h hm

/-- Picks that exclude each other add up. -/
theorem total_entries_or {d : Path} {a b : String → Bool}
    (h : ∀ name, a name = true → b name = false) :
    t.total w (.entries d fun name => a name || b name) =
      t.total w (.entries d a) + t.total w (.entries d b) := by
  have hUnion : t.total w (.entries d fun name => a name || b name) =
      t.total w ((Region.entries d a).union (.entries d b)) := by
    apply total_congr
    intro p o _
    have hIff : (Region.entries d fun name => a name || b name).mem p = true ↔
        ((Region.entries d a).union (.entries d b)).mem p = true := by
      rw [mem_union, Bool.or_eq_true, mem_entries, mem_entries, mem_entries]
      constructor
      · rintro ⟨name, hPick, hBelow⟩
        rw [Bool.or_eq_true] at hPick
        exact hPick.imp (fun ha => ⟨name, ha, hBelow⟩) fun hb => ⟨name, hb, hBelow⟩
      · rintro (⟨name, ha, hBelow⟩ | ⟨name, hb, hBelow⟩)
        · exact ⟨name, by rw [ha, Bool.true_or], hBelow⟩
        · exact ⟨name, by rw [hb, Bool.or_true], hBelow⟩
    simp only [hIff]
  rw [hUnion, total_union, total_without_of_disjoint]
  intro p hp
  rw [Bool.eq_false_iff]
  intro hOther
  obtain ⟨m, hm, hBelow⟩ := mem_entries.1 hp
  obtain ⟨n, hn, hAlso⟩ := mem_entries.1 hOther
  rw [entry_unique hBelow hAlso] at hm
  rw [h n hm] at hn
  cases hn

end Totals

/-! ## What the operating system does -/

inductive OsError where
  | notFound | notADirectory | isADirectory | directoryNotEmpty | filesystemLoop
  deriving DecidableEq, Repr

/-- Where the system finds what the link at a location leads to. -/
class LinkResolution where
  follow : FileTree → Path → Except OsError Path

section System

variable [LinkResolution]

/-- The directory at a location, or the one that a link there leads to. -/
def FileTree.directoryAt (t : FileTree) (loc : Path) : Except OsError Path :=
  match t.at loc with
  | none => .error .notFound
  | some (.file _) => .error .notADirectory
  | some .dir => .ok loc
  | some (.link _) => do
      let target ← LinkResolution.follow t loc
      match t.at target with
      | some .dir => .ok target
      | some _ => .error .notADirectory
      | none => .error .notFound

/-- The directory that a path names, links followed. -/
def FileTree.resolveDir (t : FileTree) : Path → Except OsError Path
  | [] => .ok []
  | name :: parent => do
      let d ← t.resolveDir parent
      t.directoryAt (name :: d)

/-- Where the entry that a path names stands, itself not followed. -/
def FileTree.locate (t : FileTree) : Path → Except OsError Path
  | [] => .ok []
  | name :: parent => do
      let d ← t.resolveDir parent
      .ok (name :: d)

/-- `lstat`. -/
def FileTree.symlinkMetadata (t : FileTree) (path : Path) : Except OsError Object := do
  let loc ← t.locate path
  (t.at loc).elim (.error .notFound) .ok

/-- `stat` finds something, links followed. -/
def FileTree.pathExists (t : FileTree) (path : Path) : Bool :=
  match t.locate path with
  | .error _ => false
  | .ok loc =>
      match t.at loc with
      | none => false
      | some (.link _) =>
          match LinkResolution.follow t loc with
          | .ok target => (t.at target).isSome
          | .error _ => false
      | some _ => true

/-- `opendir` and the entries; a link to a directory is followed. -/
def FileTree.readDir (t : FileTree) (path : Path) : Except OsError (List String) := do
  let d ← t.resolveDir path
  .ok (t.children d)

/-- The entry at a location goes, unless it is a directory. -/
def FileTree.unlinkAt (t : FileTree) (loc : Path) : Except OsError FileTree :=
  match t.at loc with
  | none => .error .notFound
  | some .dir => .error .isADirectory
  | some _ => .ok (t.without (.under loc))

/-- `unlink`. -/
def FileTree.removeFile (t : FileTree) (path : Path) : Except OsError FileTree := do
  let loc ← t.locate path
  t.unlinkAt loc

/-- The directory at a location goes, if it is empty. -/
def FileTree.rmdirAt (t : FileTree) (loc : Path) : Except OsError FileTree :=
  match t.at loc with
  | none => .error .notFound
  | some .dir =>
      if t.children loc = [] then .ok (t.without (.under loc)) else .error .directoryNotEmpty
  | some _ => .error .notADirectory

/-- `rmdir`. -/
def FileTree.removeDir (t : FileTree) (path : Path) : Except OsError FileTree := do
  let loc ← t.locate path
  t.rmdirAt loc

/-! ## Paths below an anchored one -/

/-- The trees are the same but for what is at `R` or below. -/
def SameOutside (R : Path) (t t' : FileTree) : Prop := ∀ p, ¬ R <:+ p → t'.at p = t.at p

/-- The path leads to `R`, whatever stands there or below. -/
def Anchored (root R : Path) (t : FileTree) : Prop :=
  ∀ t', SameOutside R t t' → t'.locate root = .ok R

variable {t : FileTree} {root R path loc q : Path} {name : String} {o : Object} {A : Region}

theorem resolveDir_of_locate (h : t.locate path = .ok loc) (hDir : t.at loc = some .dir) :
    t.resolveDir path = .ok loc := by
  cases path with
  | nil =>
      cases h
      rfl
  | cons name parent =>
      change (t.resolveDir parent >>= fun d => Except.ok (name :: d)) = _ at h
      show (t.resolveDir parent >>= fun d => t.directoryAt (name :: d)) = _
      cases hParent : t.resolveDir parent with
      | error e =>
          rw [hParent] at h
          cases h
      | ok d =>
          rw [hParent] at h
          cases h
          show t.directoryAt (name :: d) = _
          unfold FileTree.directoryAt
          rw [hDir]

theorem Anchored.locate (h : Anchored root R t) : t.locate root = .ok R := h t fun _ _ => rfl

/-- An entry of a directory below the root stands where its path says. -/
theorem Anchored.locate_entry (h : Anchored root R t) (hDir : t.at (q ++ R) = some .dir) :
    t.resolveDir (q ++ root) = .ok (q ++ R) ∧
      ∀ name, t.locate (name :: (q ++ root)) = .ok (name :: (q ++ R)) := by
  have hResolve : t.resolveDir (q ++ root) = .ok (q ++ R) := by
    induction q with
    | nil => exact resolveDir_of_locate h.locate hDir
    | cons m q ih =>
        have hParent : t.at (q ++ R) = some .dir :=
          at_eq_some.2 (t.parents m (q ++ R) .dir (at_eq_some.1 hDir))
        apply resolveDir_of_locate _ hDir
        show (t.resolveDir (q ++ root) >>= fun d => Except.ok (m :: d)) = _
        rw [ih hParent]
        rfl
  refine ⟨hResolve, fun name => ?_⟩
  show (t.resolveDir (q ++ root) >>= fun d => Except.ok (name :: d)) = _
  rw [hResolve]
  rfl

/-- A removal below the root does not move it. -/
theorem Anchored.without (h : Anchored root R t) (hA : A.Within (.under R)) :
    Anchored root R (t.without A) := by
  intro t' hSame
  apply h
  intro p hp
  rw [hSame p hp]
  apply at_without_of_not_mem
  cases hIn : A.mem p with
  | false => rfl
  | true => exact absurd (mem_under.1 (hA p hIn)) hp

/-- A path through real directories alone is where it says. -/
theorem anchored_self (h : ∀ q, q <:+ root → q ≠ root → t.at q = some .dir) :
    Anchored root root t := by
  intro t' hSame
  have hDirs : ∀ q, q <:+ root → q ≠ root → t'.at q = some .dir := by
    intro q hq hNe
    rw [hSame q]
    · exact h q hq hNe
    · intro hBack
      exact hNe (hq.eq_of_length_le hBack.length_le)
  clear hSame h
  cases root with
  | nil => rfl
  | cons name parent =>
      have hParent : ∀ q, q <:+ parent → t'.resolveDir q = .ok q := by
        intro q hq
        induction q with
        | nil => rfl
        | cons m q ih =>
            have hHere : t'.at (m :: q) = some .dir := by
              apply hDirs
              · exact hq.trans (List.suffix_cons name parent)
              · intro hEq
                have := hq.length_le
                rw [hEq, List.length_cons] at this
                omega
            show (t'.resolveDir q >>= fun d => t'.directoryAt (m :: d)) = _
            rw [ih ((List.suffix_cons m q).trans hq)]
            show t'.directoryAt (m :: q) = _
            unfold FileTree.directoryAt
            rw [hHere]
      show (t'.resolveDir parent >>= fun d => Except.ok (name :: d)) = _
      rw [hParent parent (List.suffix_refl _)]
      rfl

/-! ## The operations below an anchored path -/

theorem Anchored.symlinkMetadata (h : Anchored root R t) (hDir : t.at (q ++ R) = some .dir) :
    t.symlinkMetadata (name :: (q ++ root)) =
      (t.at (name :: (q ++ R))).elim (.error .notFound) .ok := by
  unfold FileTree.symlinkMetadata
  rw [(h.locate_entry hDir).2 name]
  rfl

theorem Anchored.readDir (h : Anchored root R t) (hDir : t.at (q ++ R) = some .dir) :
    t.readDir (q ++ root) = .ok (t.children (q ++ R)) := by
  unfold FileTree.readDir
  rw [(h.locate_entry hDir).1]
  rfl

theorem Anchored.removeFile (h : Anchored root R t) (hDir : t.at (q ++ R) = some .dir)
    (hAt : t.at (name :: (q ++ R)) = some o) (hNot : o ≠ .dir) :
    t.removeFile (name :: (q ++ root)) = .ok (t.without (.under (name :: (q ++ R)))) := by
  unfold FileTree.removeFile
  rw [(h.locate_entry hDir).2 name]
  show t.unlinkAt (name :: (q ++ R)) = _
  unfold FileTree.unlinkAt
  rw [hAt]
  cases o with
  | file content => rfl
  | link target => rfl
  | dir => exact absurd rfl hNot

theorem Anchored.removeDir (h : Anchored root R t) (hDir : t.at (q ++ R) = some .dir)
    (hAt : t.at (name :: (q ++ R)) = some .dir) (hEmpty : t.children (name :: (q ++ R)) = []) :
    t.removeDir (name :: (q ++ root)) = .ok (t.without (.under (name :: (q ++ R)))) := by
  unfold FileTree.removeDir
  rw [(h.locate_entry hDir).2 name]
  show t.rmdirAt (name :: (q ++ R)) = _
  unfold FileTree.rmdirAt
  rw [hAt]
  exact if_pos hEmpty

end System

end FrameScope.Verified.FileSystem
