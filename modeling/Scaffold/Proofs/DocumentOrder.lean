import Scaffold.Export.Survey

/-!
# Addresses and document order

A node of a tree is named by its address, the numbers of the children to go down to from the root.
Two equal nodes at different places have different addresses, and one address comes before another
in document order exactly when it is smaller as a list. `places` goes through all addresses of a
tree in that order, and `visit` keeps those of its places that stand below passed nodes only.
-/

namespace Scaffold.Export

open Source (Tree)

/-- The place reached by going down to the child of each number in turn. -/
def Place.descend (p : Place) : List Nat → Option Place
  | [] => some p
  | n :: address =>
    match p.children[n]? with
    | some c => c.descend address
    | none => none

/-- The addresses of all nodes of a tree, each node before those inside it. -/
def addresses : Tree → List (List Nat)
  | ⟨_, _, _, _, children⟩ => [] :: inside 0 children
where
  inside (n : Nat) : List Tree → List (List Nat)
    | [] => []
    | t :: ts => (addresses t).map (n :: ·) ++ inside (n + 1) ts

theorem addresses_eq (t : Tree) : addresses t = [] :: addresses.inside 0 t.children := by
  cases t
  rfl

theorem below_eq (above : List Tree) (t : Tree) :
    places.below above t = ⟨t, above⟩ :: places.belowAll (t :: above) t.children := by
  cases t
  rfl

theorem descend_cons (t : Tree) (above : List Tree) (n : Nat) (address : List Nat) :
    Place.descend ⟨t, above⟩ (n :: address) =
      t.children[n]?.bind fun c => Place.descend ⟨c, t :: above⟩ address := by
  simp only [Place.descend, Place.children, List.getElem?_map]
  cases t.children[n]? <;> rfl

/-! ### The addresses are sorted -/

/-- An address inside the children from number `n` on goes to one of these first. -/
theorem head_of_mem_inside {n : Nat} {ts : List Tree} {address : List Nat}
    (h : address ∈ addresses.inside n ts) : ∃ m rest, address = m :: rest ∧ n ≤ m := by
  induction ts generalizing n with
  | nil => simp [addresses.inside] at h
  | cons t ts ih =>
    simp only [addresses.inside, List.mem_append, List.mem_map] at h
    rcases h with ⟨rest, -, rfl⟩ | h
    · exact ⟨n, rest, rfl, Nat.le_refl n⟩
    · obtain ⟨m, rest, rfl, hm⟩ := ih h
      exact ⟨m, rest, rfl, by omega⟩

mutual

theorem addresses_sorted : ∀ t : Tree, (addresses t).Pairwise (· < ·)
  | ⟨_, _, _, _, children⟩ => by
    rw [addresses_eq, List.pairwise_cons]
    refine ⟨fun address h => ?_, inside_sorted 0 children⟩
    obtain ⟨m, rest, rfl, -⟩ := head_of_mem_inside h
    exact List.nil_lt_cons m rest

theorem inside_sorted : ∀ (n : Nat) (ts : List Tree), (addresses.inside n ts).Pairwise (· < ·)
  | _, [] => List.Pairwise.nil
  | n, t :: ts => by
    rw [addresses.inside, List.pairwise_append]
    refine ⟨?_, inside_sorted (n + 1) ts, ?_⟩
    · rw [List.pairwise_map]
      exact (addresses_sorted t).imp fun h => List.cons_lt_cons_iff.mpr (Or.inr ⟨rfl, h⟩)
    · intro a ha b hb
      obtain ⟨rest, -, rfl⟩ := List.mem_map.mp ha
      obtain ⟨m, rest', rfl, hm⟩ := head_of_mem_inside hb
      exact List.cons_lt_cons_iff.mpr (Or.inl (by omega))

end

/-! ### Every address of the tree is listed -/

mutual

theorem map_descend_addresses : ∀ (t : Tree) (above : List Tree),
    (addresses t).map (Place.descend ⟨t, above⟩) = (places.below above t).map some
  | ⟨kind, field, named, text, children⟩, above => by
    rw [addresses_eq, below_eq, List.map_cons, List.map_cons]
    exact congrArg _ (map_descend_inside ⟨kind, field, named, text, children⟩ above [] children rfl)

/-- The last argument keeps what has been passed of the children, so that numbers stay right. -/
theorem map_descend_inside : ∀ (parent : Tree) (above passed ts : List Tree),
    parent.children = passed ++ ts →
      (addresses.inside passed.length ts).map (Place.descend ⟨parent, above⟩) =
        (places.belowAll (parent :: above) ts).map some
  | _, _, _, [], _ => rfl
  | parent, above, passed, t :: ts, h => by
    have first : ∀ address, Place.descend ⟨parent, above⟩ (passed.length :: address) =
        Place.descend ⟨t, parent :: above⟩ address := by
      intro address
      rw [descend_cons, h]
      simp
    have rest := map_descend_inside parent above (passed ++ [t]) ts (by simp [h])
    rw [List.length_append, List.length_singleton] at rest
    rw [addresses.inside, places.belowAll, List.map_append, List.map_append, rest, List.map_map,
      ← map_descend_addresses t (parent :: above)]
    exact congrArg (· ++ _) (List.map_congr_left fun address _ => first address)

end

theorem mem_inside {ts : List Tree} {n : Nat} {c : Tree} {address : List Nat} (first : Nat)
    (hc : ts[n]? = some c) (ha : address ∈ addresses c) :
    (first + n) :: address ∈ addresses.inside first ts := by
  induction ts generalizing n first with
  | nil => simp at hc
  | cons t ts ih =>
    rw [addresses.inside, List.mem_append]
    cases n with
    | zero =>
      simp only [List.getElem?_cons_zero, Option.some.injEq] at hc
      exact Or.inl (List.mem_map.mpr ⟨address, hc ▸ ha, rfl⟩)
    | succ n =>
      have later := ih (first + 1) (by simpa using hc)
      rw [show first + 1 + n = first + (n + 1) by omega] at later
      exact Or.inr later

theorem mem_addresses {t : Tree} {above : List Tree} {address : List Nat} {p : Place}
    (h : Place.descend ⟨t, above⟩ address = some p) : address ∈ addresses t := by
  induction address generalizing t above with
  | nil => simp [addresses_eq]
  | cons n address ih =>
    rw [descend_cons] at h
    obtain ⟨c, hc, hp⟩ := Option.bind_eq_some_iff.mp h
    rw [addresses_eq]
    have inner := mem_inside 0 hc (ih hp)
    rw [Nat.zero_add] at inner
    exact List.mem_cons_of_mem _ inner

/-! ### What the walk visits -/

/-- Every node above the place is one that the walk passes. -/
def Place.isOpen (p : Place) : Bool :=
  p.above.all (role · == .other)

theorem Place.isOpen_iff (p : Place) : p.isOpen = true ↔ ∀ t ∈ p.above, role t = .other := by
  simp [Place.isOpen]

mutual

theorem above_subset_below : ∀ {above : List Tree} {t : Tree} {p : Place},
    p ∈ places.below above t → above ⊆ p.above
  | above, ⟨_, _, _, _, children⟩, p, h => by
    rw [below_eq, List.mem_cons] at h
    rcases h with rfl | h
    · exact fun _ hu => hu
    · exact fun u hu => above_subset_belowAll h (List.mem_cons_of_mem _ hu)

theorem above_subset_belowAll : ∀ {above ts : List Tree} {p : Place},
    p ∈ places.belowAll above ts → above ⊆ p.above
  | _, [], _, h => by simp [places.belowAll] at h
  | above, t :: ts, p, h => by
    rw [places.belowAll, List.mem_append] at h
    rcases h with h | h
    · exact above_subset_below h
    · exact above_subset_belowAll h

end

theorem flatMap_below_children (p : Place) :
    p.children.flatMap (fun c => places.below c.above c.node) =
      places.belowAll (p.node :: p.above) p.node.children := by
  rw [Place.children, List.flatMap_map]
  induction p.node.children with
  | nil => rfl
  | cons t ts ih => simpa only [List.flatMap_cons, places.belowAll] using congrArg _ ih

/-- What is left to visit is always what the places on the stack have below them, less what stands
below a node that ends its branch. -/
theorem visit_eq_filter (stack : List Place) (h : ∀ p ∈ stack, p.isOpen = true) :
    visit stack = (stack.flatMap fun p => places.below p.above p.node).filter Place.isOpen := by
  induction stack using visit.induct with
  | case1 => simp [visit]
  | case2 p stack hr ih =>
    have hp : p.isOpen = true := h p List.mem_cons_self
    have hc : ∀ c ∈ p.children ++ stack, c.isOpen = true := by
      intro c hc
      rcases List.mem_append.mp hc with hc | hc
      · obtain ⟨t, -, rfl⟩ := List.mem_map.mp hc
        rw [Place.isOpen, List.all_cons, hr]
        exact hp
      · exact h c (List.mem_cons_of_mem _ hc)
    rw [visit, if_pos hr, ih hc, List.flatMap_cons, below_eq, List.cons_append,
      List.filter_cons_of_pos hp, List.flatMap_append, flatMap_below_children]
  | case3 p stack hr ih =>
    have hp : p.isOpen = true := h p List.mem_cons_self
    -- everything inside `p` has `p` above it, so nothing of it is kept
    have inside : (places.belowAll (p.node :: p.above) p.node.children).filter Place.isOpen = [] := by
      rw [List.filter_eq_nil_iff]
      intro q hq ho
      have hn := above_subset_belowAll hq List.mem_cons_self
      exact hr (by simpa using q.isOpen_iff.mp ho _ hn)
    rw [visit, if_neg hr, ih fun q hq => h q (List.mem_cons_of_mem _ hq), List.flatMap_cons,
      below_eq, List.cons_append, List.filter_cons_of_pos hp, List.filter_append, inside,
      List.nil_append]

theorem visited_eq_filter (root : Tree) :
    visited root = (places root).filter Place.isOpen := by
  rw [visited, visit_eq_filter _ (by simp [Place.isOpen])]
  simp [places]

end Scaffold.Export
