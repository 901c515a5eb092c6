import Mathlib.Data.List.Infix
import Mathlib.Data.List.Sublists
import MarketSnapshot.Snapshot.Serializer

namespace MarketSnapshot

open Document (leaves branchLeaves)

def Apart (p q : List String) : Prop := ¬ p <+: q ∧ ¬ q <+: p

instance (p q : List String) : Decidable (Apart p q) := inferInstanceAs (Decidable (_ ∧ _))

theorem Apart.of_cons {key : String} {p q : List String} (apart : Apart (key :: p) (key :: q)) :
    Apart p q := by
  simpa [Apart, List.cons_prefix_cons] using apart

namespace Document

theorem branchLeaves_eq_flatMap (branch : Branch) :
    branchLeaves branch =
      branch.flatMap fun entry => (leaves entry.2).map fun leaf => (entry.1 :: leaf.1, leaf.2) := by
  induction branch with
  | nil => rfl
  | cons entry rest ih => rw [branchLeaves, ih, List.flatMap_cons]

theorem branchLeaves_append (left right : Branch) :
    branchLeaves (left ++ right) = branchLeaves left ++ branchLeaves right := by
  simp only [branchLeaves_eq_flatMap, List.flatMap_append]

theorem mem_branchLeaves_iff {branch : Branch} {leaf : List String × Value} :
    leaf ∈ branchLeaves branch ↔
      ∃ key d rest, (key, d) ∈ branch ∧ (rest, leaf.2) ∈ leaves d ∧ key :: rest = leaf.1 := by
  rw [branchLeaves_eq_flatMap, List.mem_flatMap]
  constructor
  · rintro ⟨⟨key, d⟩, member, shown⟩
    obtain ⟨⟨rest, v⟩, below, rfl⟩ := List.mem_map.mp shown
    exact ⟨key, d, rest, member, below, rfl⟩
  · rintro ⟨key, d, rest, member, below, path⟩
    obtain ⟨_, v⟩ := leaf
    cases path
    exact ⟨(key, d), member, List.mem_map.mpr ⟨(rest, v), below, rfl⟩⟩

theorem branchLeaves_ne_nil {branch : Branch} {key : String} {d : Document}
    (found : Table.find? branch key = some d) (shown : leaves d ≠ []) :
    branchLeaves branch ≠ [] := by
  obtain ⟨leaf, below⟩ := List.exists_mem_of_ne_nil _ shown
  have member : (key :: leaf.1, leaf.2) ∈ branchLeaves branch :=
    mem_branchLeaves_iff.mpr ⟨key, d, leaf.1, Table.mem_of_find? found, below, rfl⟩
  exact List.ne_nil_of_mem member

end Document

open Document (branchLeaves_append mem_branchLeaves_iff branchLeaves_ne_nil)

namespace Branch

/-- Here and in every branch below no name stands twice, and no branch below is without leaves. -/
inductive Settled : Branch → Prop where
  | intro {branch : Branch} (distinct : (Table.keys branch).Nodup)
    (filled : ∀ key children, Table.find? branch key = some (.node children) →
      branchLeaves children ≠ [])
    (inner : ∀ key children, Table.find? branch key = some (.node children) → Settled children) :
    Settled branch

theorem settled_nil : Settled [] := .intro List.nodup_nil nofun nofun

theorem settled_below {branch : Branch} (settled : Settled branch) (key : String) :
    Settled (below branch key) := by
  obtain ⟨_, _, inner⟩ := settled
  unfold Branch.below
  split
  · rename_i children found
    exact inner key children found
  · exact settled_nil

theorem branchLeaves_put_ne_nil (branch : Branch) {path : List String} (named : path ≠ [])
    (v : Value) : branchLeaves (put branch path v) ≠ [] := by
  induction path generalizing branch with
  | nil => exact absurd rfl named
  | cons key rest ih =>
    cases rest with
    | nil => exact branchLeaves_ne_nil (Table.find?_put_self branch key _) (by simp [leaves])
    | cons next more =>
      exact branchLeaves_ne_nil (Table.find?_put_self branch key _) (ih _ (by simp))

theorem Settled.put {branch : Branch} (settled : Settled branch) (path : List String) (v : Value) :
    Settled (put branch path v) := by
  -- A write touches the branches along its path only, so the others are as they were.
  have write {branch : Branch} (settled : Settled branch) (key : String) {d : Document}
      (inside : ∀ children, d = .node children → branchLeaves children ≠ [] ∧ Settled children) :
      Settled (Table.put branch key d) := by
    obtain ⟨distinct, filled, inner⟩ := settled
    have known (other : String) (children : Branch)
        (found : Table.find? (Table.put branch key d) other = some (.node children)) :
        branchLeaves children ≠ [] ∧ Settled children := by
      by_cases same : key = other
      · subst same
        rw [Table.find?_put_self] at found
        exact inside children (Option.some.inj found)
      · rw [Table.find?_put_of_ne branch d same] at found
        exact ⟨filled other children found, inner other children found⟩
    exact .intro (Table.nodup_keys_put distinct key d) (fun _ _ found => (known _ _ found).1)
      fun _ _ found => (known _ _ found).2
  induction path generalizing branch with
  | nil => exact settled
  | cons key rest ih =>
    cases rest with
    | nil => exact write settled key nofun
    | cons next more =>
      refine write settled key ?_
      rintro children ⟨⟩
      exact ⟨branchLeaves_put_ne_nil _ (by simp) v, ih (settled_below settled key)⟩

theorem Settled.distinct {branch : Branch} (settled : Settled branch) :
    (Table.keys branch).Nodup := by
  obtain ⟨distinct, _, _⟩ := settled
  exact distinct

theorem mem_branchLeaves_cons_iff {branch : Branch} (settled : Settled branch) {key : String}
    {rest : List String} {v : Value} :
    (key :: rest, v) ∈ branchLeaves branch ↔
      ∃ d, Table.find? branch key = some d ∧ (rest, v) ∈ leaves d := by
  rw [mem_branchLeaves_iff]
  constructor
  · rintro ⟨_, d, _, member, shown, path⟩
    cases path
    exact ⟨d, Table.find?_of_mem settled.distinct member, shown⟩
  · rintro ⟨d, found, shown⟩
    exact ⟨key, d, rest, Table.mem_of_find? found, shown, rfl⟩

theorem path_ne_nil_of_mem {branch : Branch} {leaf : List String × Value}
    (member : leaf ∈ branchLeaves branch) : leaf.1 ≠ [] := by
  obtain ⟨key, _, rest, _, _, path⟩ := mem_branchLeaves_iff.mp member
  rw [← path]
  exact List.cons_ne_nil key rest

theorem at?_eq_leaf_iff {branch : Branch} (settled : Settled branch) (path : List String)
    (v : Value) : at? branch path = some (.leaf v) ↔ (path, v) ∈ branchLeaves branch := by
  induction path generalizing branch with
  | nil =>
    refine ⟨nofun, fun member => ?_⟩
    exact absurd rfl (path_ne_nil_of_mem member)
  | cons key rest ih =>
    rw [mem_branchLeaves_cons_iff settled]
    cases rest with
    | nil =>
      refine ⟨fun found => ⟨.leaf v, found, by simp [leaves]⟩, ?_⟩
      rintro ⟨d, found, shown⟩
      cases d with
      | leaf w =>
        have same : v = w := by simpa [leaves] using shown
        rw [same]
        exact found
      | node children => exact absurd rfl (path_ne_nil_of_mem shown)
    | cons next more =>
      refine (ih (settled_below settled key)).trans ?_
      unfold below
      cases Table.find? branch key with
      | none => simp [branchLeaves]
      | some d => cases d <;> simp [branchLeaves, leaves]

theorem exists_leaf_of_at? {branch children : Branch} (settled : Settled branch)
    {path : List String} (named : path ≠ [])
    (found : at? branch path = some (.node children)) :
    ∃ leaf ∈ branchLeaves branch, path <+: leaf.1 ∧ path ≠ leaf.1 := by
  induction path generalizing branch with
  | nil => exact absurd rfl named
  | cons key rest ih =>
    cases rest with
    | nil =>
      obtain ⟨_, filled, _⟩ := settled
      obtain ⟨leaf, shown⟩ := List.exists_mem_of_ne_nil _ (filled key children found)
      refine ⟨(key :: leaf.1, leaf.2), ?_, ?_, ?_⟩
      · exact mem_branchLeaves_iff.mpr ⟨key, _, leaf.1, Table.mem_of_find? found, shown, rfl⟩
      · exact List.prefix_append [key] leaf.1
      · intro same
        exact path_ne_nil_of_mem shown (List.cons.inj same).2.symm
    | cons next more =>
      obtain ⟨leaf, shown, lead, other⟩ := ih (settled_below settled key) (by simp) found
      refine ⟨(key :: leaf.1, leaf.2), ?_, ?_, ?_⟩
      · rw [mem_branchLeaves_cons_iff settled]
        unfold below at shown
        split at shown
        · rename_i inner known
          exact ⟨.node inner, known, shown⟩
        · cases shown
      · exact (List.prefix_cons_inj key).mpr lead
      · intro same
        exact other (List.cons.inj same).2

theorem branchLeaves_put_nil {path : List String} (named : path ≠ []) (v : Value) :
    branchLeaves (put [] path v) = [(path, v)] := by
  induction path with
  | nil => exact absurd rfl named
  | cons key rest ih =>
    cases rest with
    | nil => rfl
    | cons next more =>
      show (branchLeaves (put [] (next :: more) v)).map _ ++ [] = _
      rw [ih (List.cons_ne_nil next more)]
      rfl

theorem branchLeaves_put_fresh {branch : Branch} {key : String}
    (fresh : Table.find? branch key = none) (rest : List String) (v : Value) :
    branchLeaves (put branch (key :: rest) v) = branchLeaves branch ++ [(key :: rest, v)] := by
  have written (d : Document) : Table.put branch key d = branch ++ [(key, d)] :=
    Table.put_of_fresh ((Table.find?_eq_none_iff branch key).mp fresh) d
  cases rest with
  | nil =>
    show branchLeaves (Table.put branch key (.leaf v)) = _
    rw [written, branchLeaves_append]
    rfl
  | cons next more =>
    have empty : below branch key = [] := by
      unfold below
      rw [fresh]
    show branchLeaves (Table.put branch key (.node (put (below branch key) (next :: more) v))) = _
    rw [written, branchLeaves_append, empty, branchLeaves, leaves,
      branchLeaves_put_nil (List.cons_ne_nil next more)]
    rfl

theorem put_known {branch children : Branch} {key : String}
    (known : Table.find? branch key = some (.node children)) :
    ∃ left right, branch = left ++ (key, .node children) :: right ∧
      ∀ rest, rest ≠ [] → ∀ v, put branch (key :: rest) v =
        left ++ (key, .node (put children rest v)) :: right := by
  obtain ⟨left, right, parts, replaced⟩ := Table.split_of_find? known
  have inside : below branch key = children := by
    unfold below
    rw [known]
  refine ⟨left, right, parts, fun rest deeper v => ?_⟩
  obtain ⟨next, more, rfl⟩ := List.exists_cons_of_ne_nil deeper
  show Table.put branch key (.node (put (below branch key) (next :: more) v)) = _
  rw [replaced, inside]

def under (key : String) (leaf : List String × Value) : List String × Value :=
  (key :: leaf.1, leaf.2)

theorem branchLeaves_around (left right : Branch) (key : String) (children : Branch) :
    branchLeaves (left ++ (key, .node children) :: right) =
      branchLeaves left ++ ((branchLeaves children).map (under key) ++ branchLeaves right) := by
  rw [branchLeaves_append, branchLeaves, leaves]
  rfl

/-- A path comes before a leaf that was there first only if it shares with a leaf before that one a
lead that the leaf does not have. -/
def Overtakes (path : List String) (before : List (List String × Value))
    (leaf : List String × Value) : Prop :=
  ∃ lead, lead <+: path ∧ (∃ earlier ∈ before, lead <+: earlier.1) ∧ ¬ lead <+: leaf.1

theorem Overtakes.under {path : List String} {before : List (List String × Value)}
    {leaf : List String × Value} (overtakes : Overtakes path before leaf) (key : String)
    (left : List (List String × Value)) :
    Overtakes (key :: path) (left ++ before.map (under key)) (under key leaf) := by
  obtain ⟨lead, leads, ⟨earlier, first, shared⟩, other⟩ := overtakes
  refine ⟨key :: lead, (List.prefix_cons_inj key).mpr leads, ?_, ?_⟩
  · refine ⟨Branch.under key earlier, ?_, (List.prefix_cons_inj key).mpr shared⟩
    exact List.mem_append_right _ (List.mem_map_of_mem first)
  · exact mt (List.prefix_cons_inj key).mp other

/-- Wherever the new leaf comes to stand, the leaves that were there keep their order. -/
theorem leaves_put {branch : Branch} (settled : Settled branch) {path : List String}
    (named : path ≠ []) (apart : ∀ leaf ∈ branchLeaves branch, Apart leaf.1 path) (v : Value) :
    ∃ before after, branchLeaves branch = before ++ after ∧
      branchLeaves (put branch path v) = before ++ (path, v) :: after ∧
      ∀ leaf ∈ after, Overtakes path before leaf := by
  induction path generalizing branch with
  | nil => exact absurd rfl named
  | cons key rest ih =>
    cases known : Table.find? branch key with
    | none =>
      exact ⟨branchLeaves branch, [], by simp, branchLeaves_put_fresh known rest v, by simp⟩
    | some d =>
      have inner_apart {leaf : List String × Value} (member : leaf ∈ leaves d) :
          Apart leaf.1 rest :=
        (apart _ ((mem_branchLeaves_cons_iff settled).mpr ⟨d, known, member⟩)).of_cons
      cases d with
      | leaf w =>
        have own : ([], w) ∈ leaves (.leaf w) := by simp [leaves]
        exact absurd List.nil_prefix (inner_apart own).1
      | node children =>
        have ⟨distinct, filled, inner⟩ := settled
        obtain ⟨some_leaf, listed⟩ := List.exists_mem_of_ne_nil _ (filled key children known)
        have deeper : rest ≠ [] := by
          rintro rfl
          exact (inner_apart listed).2 List.nil_prefix
        obtain ⟨before, after, split, written, overtaken⟩ :=
          ih (inner key children known) deeper fun leaf member => inner_apart member
        have first : before ≠ [] := by
          rintro rfl
          rw [split, List.nil_append] at listed
          obtain ⟨_, _, ⟨_, none_before, _⟩, _⟩ := overtaken some_leaf listed
          cases none_before
        obtain ⟨left, right, rfl, replaced⟩ := put_known known
        refine ⟨branchLeaves left ++ before.map (under key),
          after.map (under key) ++ branchLeaves right, ?_, ?_, ?_⟩
        · rw [branchLeaves_around, split, List.map_append]
          simp only [List.append_assoc]
        · rw [replaced rest deeper, branchLeaves_around, written, List.map_append, List.map_cons]
          simp only [List.append_assoc, List.cons_append]
          rfl
        · intro leaf member
          rcases List.mem_append.mp member with inside | outside
          · obtain ⟨old, later, rfl⟩ := List.mem_map.mp inside
            exact (overtaken old later).under key _
          · -- Those under later names are overtaken for the sake of a leaf under this one.
            obtain ⟨other, d, p, entry, _, path⟩ := mem_branchLeaves_iff.mp outside
            have fresh : key ∉ Table.keys right := by
              rw [Table.keys, List.map_append] at distinct
              exact (List.nodup_cons.mp (List.nodup_append.mp distinct).2.1).1
            obtain ⟨earlier, front⟩ := List.exists_mem_of_ne_nil _ first
            refine ⟨[key], List.prefix_append [key] rest, ?_, ?_⟩
            · exact ⟨under key earlier, List.mem_append_right _ (List.mem_map_of_mem front),
                List.prefix_append [key] earlier.1⟩
            · rw [← path, List.cons_prefix_cons]
              rintro ⟨rfl, _⟩
              exact fresh (List.mem_map_of_mem entry)

/-- A branch shows what is listed, each value at the end of its path, and nothing else: whatever
branch stands in it leads to a listed value. -/
structure Shows (branch : Branch) (listing : List (List String × Value)) : Prop where
  value : ∀ path v, at? branch path = some (.leaf v) ↔ (path, v) ∈ listing
  inner : ∀ path children, path ≠ [] → at? branch path = some (.node children) →
    ∃ leaf ∈ listing, path <+: leaf.1 ∧ path ≠ leaf.1
  leaves : (branchLeaves branch).Perm listing
  once : (listing.map Prod.fst).Nodup

end Branch

namespace Schema

structure Separate (paths : List (List String)) : Prop where
  named : ∀ path ∈ paths, path ≠ []
  apart : paths.Pairwise Apart

/-- Paths with a common lead are neighbours: no path without that lead stands between them. -/
def Grouped (paths : List (List String)) : Prop :=
  ∀ lead p q r, List.Sublist [p, q, r] paths → lead <+: p → lead <+: r → lead <+: q

instance (paths : List (List String)) : Decidable (Separate paths) :=
  decidable_of_iff ((∀ path ∈ paths, path ≠ []) ∧ paths.Pairwise Apart)
    ⟨fun ⟨named, apart⟩ => ⟨named, apart⟩, fun separate => ⟨separate.named, separate.apart⟩⟩

theorem grouped_iff (paths : List (List String)) :
    Grouped paths ↔ ∀ listed ∈ paths.sublistsLen 3, ∀ lead ∈ (listed.headD []).inits,
      lead <+: listed.getLastD [] → ∀ p ∈ listed, lead <+: p := by
  constructor
  · intro grouped listed member lead start last p inside
    obtain ⟨sublist, length⟩ := List.mem_sublistsLen.mp member
    obtain ⟨first, middle, final, rfl⟩ := List.length_eq_three.mp length
    have leads : lead <+: first := (List.mem_inits _ _).mp start
    rcases List.mem_cons.mp inside with rfl | inside
    · exact leads
    · rcases List.mem_cons.mp inside with rfl | inside
      · exact grouped lead first p final sublist leads last
      · rw [List.mem_singleton.mp inside]
        exact last
  · intro all lead p q r sublist leads last
    have member : [p, q, r] ∈ paths.sublistsLen 3 := List.mem_sublistsLen.mpr ⟨sublist, rfl⟩
    exact all _ member lead ((List.mem_inits _ _).mpr leads) last q (by simp)

instance (paths : List (List String)) : Decidable (Grouped paths) :=
  decidable_of_iff _ (grouped_iff paths).symm

theorem Separate.nodup {paths : List (List String)} (separate : Separate paths) : paths.Nodup := by
  refine separate.apart.imp ?_
  rintro p q apart rfl
  exact apart.1 (List.prefix_refl p)

section Snoc

variable {paths : List (List String)} {path : List String}

theorem Separate.of_snoc (separate : Separate (paths ++ [path])) :
    Separate paths ∧ path ≠ [] ∧ ∀ p ∈ paths, Apart p path := by
  obtain ⟨named, apart⟩ := separate
  obtain ⟨earlier, _, last⟩ := List.pairwise_append.mp apart
  refine ⟨⟨fun p member => named p (List.mem_append_left _ member), earlier⟩, ?_, ?_⟩
  · exact named path (by simp)
  · exact fun p member => last p member path (by simp)

theorem Grouped.of_snoc (grouped : Grouped (paths ++ [path])) : Grouped paths :=
  fun lead p q r listed => grouped lead p q r (listed.trans (List.sublist_append_left _ _))

theorem lead_eq_nil {lead p q : List String} (left : lead <+: p) (right : lead <+: q)
    (differ : p.head? ≠ q.head?) : lead = [] := by
  cases lead with
  | nil => rfl
  | cons key rest =>
    obtain ⟨_, rfl⟩ := left
    obtain ⟨_, rfl⟩ := right
    exact absurd rfl differ

theorem Separate.snoc (separate : Separate paths) (named : path ≠ [])
    (foreign : ∀ p ∈ paths, p.head? ≠ path.head?) : Separate (paths ++ [path]) := by
  constructor
  · exact List.forall_mem_append.mpr ⟨separate.named, by simpa using named⟩
  · refine List.pairwise_append.mpr ⟨separate.apart, List.pairwise_singleton _ _, ?_⟩
    intro p member q last
    rw [List.mem_singleton.mp last]
    constructor
    · intro lead
      exact separate.named p member (lead_eq_nil (List.prefix_refl p) lead (foreign p member))
    · intro lead
      exact named (lead_eq_nil lead (List.prefix_refl path) (foreign p member))

theorem Grouped.snoc (grouped : Grouped paths) (foreign : ∀ p ∈ paths, p.head? ≠ path.head?) :
    Grouped (paths ++ [path]) := by
  intro lead p q r sublist first last
  obtain ⟨front, back, split, listed, ending⟩ := List.sublist_append_iff.mp sublist
  rcases List.sublist_singleton.mp ending with rfl | rfl
  · rw [List.append_nil] at split
    rw [← split] at listed
    exact grouped lead p q r listed first last
  · have parts : [p, q] ++ [r] = front ++ [path] := split
    obtain ⟨rfl, same⟩ := List.append_inj' parts rfl
    cases same
    have member : p ∈ paths := listed.subset (by simp)
    rw [lead_eq_nil first last (foreign p member)]
    exact List.nil_prefix

end Snoc

variable {σ : Type}

def listing (schema : Schema σ) (s : σ) : List (List String × Value) :=
  schema.map fun entry => (entry.1, entry.2 s)

theorem map_fst_listing (schema : Schema σ) (s : σ) :
    (schema.listing s).map Prod.fst = schema.paths := by
  simp [listing, paths]

theorem build_snoc (schema : Schema σ) (entry : List String × (σ → Value)) (s : σ) :
    build (schema ++ [entry]) s = Branch.put (build schema s) entry.1 (entry.2 s) := by
  simp [build, List.foldl_append]

theorem settled_build (schema : Schema σ) (s : σ) : (schema.build s).Settled := by
  induction schema using List.reverseRecOn with
  | nil => exact Branch.settled_nil
  | append_singleton past entry ih =>
    rw [build_snoc]
    exact ih.put entry.1 (entry.2 s)

theorem leaves_build {schema : Schema σ} (separate : Separate schema.paths) (s : σ) :
    (branchLeaves (schema.build s)).Perm (schema.listing s) ∧
      (Grouped schema.paths → branchLeaves (schema.build s) = schema.listing s) := by
  -- Entry by entry: a path meets only leaves of earlier paths, and overtakes one of them only if
  -- the schema has torn a group apart.
  induction schema using List.reverseRecOn with
  | nil => exact ⟨.refl _, fun _ => rfl⟩
  | append_singleton past entry ih =>
    have paths_snoc : paths (past ++ [entry]) = paths past ++ [entry.1] := by simp [paths]
    have listing_snoc : listing (past ++ [entry]) s =
        listing past s ++ [(entry.1, entry.2 s)] := by simp [listing]
    rw [paths_snoc] at separate ⊢
    rw [listing_snoc, build_snoc]
    obtain ⟨earlier, named, apart⟩ := separate.of_snoc
    obtain ⟨perm, ordered⟩ := ih earlier
    have apart : ∀ leaf ∈ branchLeaves (build past s), Apart leaf.1 entry.1 := by
      intro leaf member
      refine apart leaf.1 ?_
      rw [← map_fst_listing past s]
      exact List.mem_map_of_mem (perm.mem_iff.mp member)
    obtain ⟨before, after, split, written, overtaken⟩ :=
      Branch.leaves_put (settled_build past s) named apart (entry.2 s)
    rw [written]
    constructor
    · rw [split] at perm
      exact List.perm_middle.trans ((perm.cons _).trans (List.perm_append_singleton _ _).symm)
    · intro grouped
      have same : listing past s = before ++ after := (ordered grouped.of_snoc).symm.trans split
      have last : after = [] := by
        refine List.eq_nil_iff_forall_not_mem.mpr fun leaf late => ?_
        obtain ⟨lead, leads, ⟨first, early, shared⟩, other⟩ := overtaken leaf late
        have listed : List.Sublist [first.1, leaf.1] (paths past) := by
          rw [← map_fst_listing past s, same, List.map_append]
          exact (List.singleton_sublist.mpr (List.mem_map_of_mem early)).append
            (List.singleton_sublist.mpr (List.mem_map_of_mem late))
        have torn := grouped lead first.1 leaf.1 entry.1 (listed.append_right [entry.1])
        exact other (torn shared leads)
      rw [same, last, List.append_nil]

theorem shows_build {schema : Schema σ} (separate : Separate schema.paths) (s : σ) :
    (schema.build s).Shows (schema.listing s) := by
  have settled := settled_build schema s
  obtain ⟨perm, _⟩ := leaves_build separate s
  constructor
  · intro path v
    rw [Branch.at?_eq_leaf_iff settled, perm.mem_iff]
  · intro path children named found
    obtain ⟨leaf, shown, lead⟩ := Branch.exists_leaf_of_at? settled named found
    exact ⟨leaf, perm.mem_iff.mp shown, lead⟩
  · exact perm
  · rw [map_fst_listing]
    exact separate.nodup

end Schema

namespace Snapshot

theorem separate_schema : Schema.Separate schema.paths := by decide +kernel

theorem grouped_schema : Schema.Grouped schema.paths := by decide +kernel

theorem head_ne_time : ∀ path ∈ schema.paths, path.head? ≠ some "time" := by decide

def timedSchema (time : Value) : Schema Content := schema ++ [(["time"], fun _ => time)]

theorem document_plain (s : InstrumentState) :
    Serializer.document ⟨false⟩ s = schema.build (content s) := by
  simp only [Serializer.document, Bool.false_eq_true, if_false]

theorem document_timed (s : InstrumentState) :
    Serializer.document ⟨true⟩ s =
      (timedSchema (Serializer.timeValue s)).build (content s) := by
  simp only [timedSchema, Schema.build_snoc, Serializer.document, if_true]

/-- Whatever schema is written, if no path is the beginning of another, then each value can be
looked up at its path, and the document shows nothing else; if also no group of paths is torn apart,
the document lists the values as the schema does. The schema of a snapshot is of this kind. No path
of it begins with the time, so the time comes last and takes the place of nothing. -/
theorem documents_show_schemas :
    (∀ (σ : Type) (schema : Schema σ) (s : σ), Schema.Separate schema.paths →
      (schema.build s).Shows (schema.listing s) ∧
        (Schema.Grouped schema.paths → branchLeaves (schema.build s) = schema.listing s)) ∧
    Schema.Separate schema.paths ∧ Schema.Grouped schema.paths ∧
    (∀ path ∈ schema.paths, path.head? ≠ some "time") ∧
    ∀ s : InstrumentState,
      let plain := schema.listing (content s)
      let timed := plain ++ [(["time"], Serializer.timeValue s)]
      (Serializer.document ⟨false⟩ s).Shows plain ∧
      branchLeaves (Serializer.document ⟨false⟩ s) = plain ∧
      (Serializer.document ⟨true⟩ s).Shows timed ∧
      branchLeaves (Serializer.document ⟨true⟩ s) = timed := by
  refine ⟨?_, separate_schema, grouped_schema, head_ne_time, ?_⟩
  · intro σ schema s separate
    exact ⟨Schema.shows_build separate s, (Schema.leaves_build separate s).2⟩
  · intro s plain timed
    have foreign : ∀ path ∈ schema.paths, path.head? ≠ ["time"].head? := head_ne_time
    have separate : Schema.Separate (timedSchema (Serializer.timeValue s)).paths :=
      separate_schema.snoc (List.cons_ne_nil "time" []) foreign
    have grouped : Schema.Grouped (timedSchema (Serializer.timeValue s)).paths :=
      grouped_schema.snoc foreign
    have listed : (timedSchema (Serializer.timeValue s)).listing (content s) = timed := by
      simp [timedSchema, Schema.listing, timed, plain]
    rw [document_plain, document_timed, ← listed]
    exact ⟨Schema.shows_build separate_schema (content s),
      (Schema.leaves_build separate_schema (content s)).2 grouped_schema,
      Schema.shows_build separate (content s),
      (Schema.leaves_build separate (content s)).2 grouped⟩

def tornSchema : Schema Int :=
  [(["a", "b", "x"], fun n => .int n), (["c"], fun n => .int (n + 1)),
    (["a", "d"], fun n => .int (n + 2)), (["a", "b", "y"], fun n => .int (n + 3))]

def mendedSchema : Schema Int :=
  [(["a", "b", "x"], fun n => .int n), (["a", "b", "y"], fun n => .int (n + 3)),
    (["a", "d"], fun n => .int (n + 2)), (["c"], fun n => .int (n + 1))]

theorem documents_show_schemas_torn :
    (tornSchema.build 7).Shows (tornSchema.listing 7) ∧
      (tornSchema.build 7).at? ["a", "b", "x"] = some (.leaf (.int 7)) ∧
      ¬ Schema.Grouped tornSchema.paths ∧
      branchLeaves (mendedSchema.build 7) = mendedSchema.listing 7 ∧
      branchLeaves (tornSchema.build 7) = mendedSchema.listing 7 := by
  obtain ⟨all, _⟩ := documents_show_schemas
  obtain ⟨torn, _⟩ := all Int tornSchema 7 (by decide +kernel)
  obtain ⟨_, mended⟩ := all Int mendedSchema 7 (by decide +kernel)
  refine ⟨torn, ?_, by decide +kernel, mended (by decide +kernel), rfl⟩
  exact (torn.value _ _).mpr (by simp [tornSchema, Schema.listing])

end Snapshot

end MarketSnapshot
