import RegistryProbe.Files.Tree

/-! # What stands inside a directory

  A tree as it is built, and not only as it is seen from its places. A node that is put into a
  directory joins the nodes there, under its name. A node that is put where nothing stood, and then
  pruned together with all that was put below it, leaves the tree as it was: `prune_put`,
  `prune_put_below`.
-/

namespace RegistryProbe.Files.Tree

variable {t : Tree} {n m : Node} {name : String} {p q : Location} {children : Tree}

/-! ### One directory -/

/-- A name is new in a directory if neither the first node there nor a later one has it. -/
theorem lookup_cons_eq_none_iff {other : String} :
    List.lookup name ((other, n) :: t) = none ↔ name ≠ other ∧ t.lookup name = none := by
  simp [List.lookup_eq_none_iff]

/-- A new name is added at the end. -/
theorem assign_of_lookup_eq_none (h : t.lookup name = none) (n : Node) :
    assign name n t = t ++ [(name, n)] := by
  induction t with
  | nil => rfl
  | cons e t ih =>
    obtain ⟨k, w⟩ := e
    obtain ⟨hk, hrest⟩ := lookup_cons_eq_none_iff.1 h
    rw [assign, if_neg (Ne.symm hk), ih hrest]
    rfl

/-- Giving a name to the node that has it changes nothing. -/
theorem assign_of_lookup (h : t.lookup name = some n) : assign name n t = t := by
  induction t with
  | nil => cases h
  | cons e t ih =>
    obtain ⟨k, w⟩ := e
    by_cases hk : name = k
    · subst hk
      obtain rfl : w = n := by simpa using h
      rw [assign, if_pos rfl]
    · rw [List.lookup_cons, beq_eq_false_iff_ne.2 hk] at h
      rw [assign, if_neg (Ne.symm hk), ih h]

theorem assign_assign (name : String) (n m : Node) (t : Tree) :
    assign name m (assign name n t) = assign name m t := by
  induction t with
  | nil => simp [assign]
  | cons e t ih =>
    obtain ⟨k, w⟩ := e
    by_cases hk : k = name
    · simp [assign, hk]
    · simp [assign, hk, ih]

theorem unassign_assign (name : String) (n : Node) (t : Tree) :
    unassign name (assign name n t) = unassign name t := by
  induction t with
  | nil => simp [assign, unassign]
  | cons e t ih =>
    obtain ⟨k, w⟩ := e
    by_cases hk : k = name
    · simp [assign, unassign, hk]
    · simpa [assign, unassign, hk] using ih

theorem unassign_of_lookup_eq_none (h : t.lookup name = none) : unassign name t = t := by
  induction t with
  | nil => rfl
  | cons e t ih =>
    obtain ⟨k, w⟩ := e
    obtain ⟨hk, hrest⟩ := lookup_cons_eq_none_iff.1 h
    have hunassign := ih hrest
    simpa [unassign, Ne.symm hk] using hunassign

/-! ### Along a place -/

theorem lookup_eq_none_of_look? (h : look? t [name] = none) : t.lookup name = none := by
  cases hl : t.lookup name with
  | none => rfl
  | some n =>
    rw [look?_cons_of_lookup hl] at h
    cases n <;> simp [Node.entryBelow?] at h

/-- The first name on the way to a directory leads to a directory. -/
theorem exists_lookup_of_look? (h : look? t (name :: p) = some .directory) :
    ∃ children, t.lookup name = some (.directory children) ∧
      look? children p = some .directory := by
  cases hl : t.lookup name with
  | none =>
    rw [look?_cons, hl] at h
    cases h
  | some n =>
    rw [look?_cons_of_lookup hl] at h
    cases n with
    | file b => by_cases hp : p = [] <;> simp [Node.entryBelow?, hp] at h
    | directory children => exact ⟨children, rfl, h⟩

theorem put_cons (h : t.lookup name = some (.directory children)) (n : Node) (hp : p ≠ []) :
    put n t (name :: p) = assign name (.directory (put n children p)) t := by
  obtain ⟨next, rest, rfl⟩ := List.exists_cons_of_ne_nil hp
  rw [put, h]
  simp

theorem prune_cons (h : t.lookup name = some (.directory children)) (hp : p ≠ []) :
    prune t (name :: p) = assign name (.directory (prune children p)) t := by
  obtain ⟨next, rest, rfl⟩ := List.exists_cons_of_ne_nil hp
  rw [prune, h]
  simp

theorem put_cons_of_not_directory (h : ∀ children, t.lookup name ≠ some (.directory children))
    (n : Node) (hp : p ≠ []) : put n t (name :: p) = t := by
  obtain ⟨next, rest, rfl⟩ := List.exists_cons_of_ne_nil hp
  rw [put]
  · split
    next children hl => exact absurd hl (h children)
    next => rfl
  · simp

/-- What is put where nothing stood is gone when it is pruned, and the tree is what it was. -/
theorem prune_put (hp : p ≠ []) (hdir : look? t p.dropLast = some .directory)
    (hnone : look? t p = none) (n : Node) : prune (put n t p) p = t := by
  induction p generalizing t with
  | nil => exact absurd rfl hp
  | cons name p ih =>
    cases p with
    | nil =>
      have hl := lookup_eq_none_of_look? hnone
      rw [put, prune, unassign_assign, unassign_of_lookup_eq_none hl]
    | cons next p =>
      rw [List.dropLast_cons_of_ne_nil (by simp)] at hdir
      obtain ⟨children, hl, hdir⟩ := exists_lookup_of_look? hdir
      rw [look?_cons_of_lookup hl] at hnone
      rw [put_cons hl n (by simp), prune_cons (lookup_assign_self ..) (by simp), assign_assign,
        ih (by simp) hdir hnone, assign_of_lookup hl]

/-- What is put below a place is gone when the place is pruned. -/
theorem prune_put_below (hp : p ≠ []) (hq : q ≠ []) (n : Node) (t : Tree) :
    prune (put n t (p ++ q)) p = prune t p := by
  induction p generalizing t with
  | nil => exact absurd rfl hp
  | cons name p ih =>
    have hrest : p ++ q ≠ [] := by simp [hq]
    rw [List.cons_append]
    by_cases hl : ∃ children, t.lookup name = some (.directory children)
    · obtain ⟨children, hl⟩ := hl
      rw [put_cons hl n hrest]
      cases p with
      | nil => rw [prune, prune, unassign_assign]
      | cons next p =>
        rw [prune_cons (lookup_assign_self ..) (by simp), assign_assign, ih (by simp),
          prune_cons hl (by simp)]
    · -- a place below what is no directory takes no node
      rw [put_cons_of_not_directory (fun children h => hl ⟨children, h⟩) n hrest]

/-! ### The nodes in a directory -/

theorem node?_cons_of_lookup (h : t.lookup name = some (.directory children)) (p : Location) :
    node? t (name :: p) = node? children p := by
  rw [node?, h]

/-- What is put at a place stands there. -/
theorem node?_put (hp : p ≠ []) (hdir : look? t p.dropLast = some .directory) (children : Tree) :
    node? (put (.directory children) t p) p = some (.directory children) := by
  induction p generalizing t with
  | nil => exact absurd rfl hp
  | cons name p ih =>
    cases p with
    | nil => rw [put, node?_cons_of_lookup (lookup_assign_self ..), node?]
    | cons next p =>
      rw [List.dropLast_cons_of_ne_nil (by simp)] at hdir
      obtain ⟨inside, hl, hdir⟩ := exists_lookup_of_look? hdir
      rw [put_cons hl _ (by simp), node?_cons_of_lookup (lookup_assign_self ..)]
      exact ih (by simp) hdir

/-- What is put into a directory joins the nodes there. -/
theorem node?_put_child (h : node? t p = some (.directory children)) (name : String) (n : Node) :
    node? (put n t (p ++ [name])) p = some (.directory (assign name n children)) := by
  induction p generalizing t with
  | nil =>
    obtain rfl : t = children := by simpa [node?] using h
    rfl
  | cons first p ih =>
    have hl : ∃ inside, t.lookup first = some (.directory inside) := by
      cases hl : t.lookup first with
      | none => simp [node?, hl] at h
      | some m =>
        cases m with
        | file b => by_cases hp : p = [] <;> simp [node?, hl, hp] at h
        | directory inside => exact ⟨inside, rfl⟩
    obtain ⟨inside, hl⟩ := hl
    rw [node?_cons_of_lookup hl] at h
    rw [List.cons_append, put_cons hl n (by simp), node?_cons_of_lookup (lookup_assign_self ..)]
    exact ih h

end RegistryProbe.Files.Tree
