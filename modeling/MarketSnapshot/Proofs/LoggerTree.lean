import Mathlib.Data.List.Find
import Mathlib.Data.List.Infix
import Mathlib.Data.List.TakeWhile
import MarketSnapshot.Journal.Registry

namespace MarketSnapshot

local instance lawfulBEqText : LawfulBEq Text := inferInstance

theorem Table.find?_map_values {κ α : Type} [DecidableEq κ] (table : Table κ α) (f : κ → α → α)
    (key : κ) :
    Table.find? (table.map fun entry => (entry.1, f entry.1 entry.2)) key =
      (Table.find? table key).map (f key) := by
  induction table with
  | nil => rfl
  | cons entry rest ih =>
    by_cases same : entry.1 = key
    · simp [Table.find?, same]
    · simpa [Table.find?, same] using ih

def LoggerId.depth : LoggerId → Nat
  | .root => 0
  | .named name => name.length + 1

namespace Registry

theorem append_dot_of_mem_cuts {reversed : List Glyph} {outer : Text}
    (member : outer ∈ cutsOfReversed reversed) : outer ++ [dot] <+: reversed.reverse := by
  fun_induction cutsOfReversed reversed with
  | case1 => cases member
  | case2 => cases member
  | case3 h rest ih =>
    rcases List.mem_cons.mp member with rfl | member
    · exact ⟨[], by simp⟩
    · have shorter := ih member
      exact shorter.trans ⟨[h, dot], by simp⟩
  | case4 g h rest _ ih => exact (ih member).trans ⟨[g], by simp⟩

theorem cuts_nested (reversed : List Glyph) :
    (cutsOfReversed reversed).Pairwise fun inner outer => outer ++ [dot] <+: inner := by
  fun_induction cutsOfReversed reversed with
  | case1 => exact List.Pairwise.nil
  | case2 => exact List.Pairwise.nil
  | case3 h rest ih =>
    refine List.pairwise_cons.mpr ⟨fun outer member => ?_, ih⟩
    exact (append_dot_of_mem_cuts member).trans ⟨[h], by simp⟩
  | case4 g h rest _ ih => exact ih

theorem append_dot_of_mem_outerNames {name outer : Text} (member : outer ∈ outerNames name) :
    outer ++ [dot] <+: name := by
  have cut := append_dot_of_mem_cuts member
  rwa [List.reverse_reverse] at cut

theorem length_of_mem_outerNames {name outer : Text} (member : outer ∈ outerNames name) :
    outer.length < name.length := by
  have bound := (append_dot_of_mem_outerNames member).length_le
  simp only [List.length_append, List.length_singleton] at bound
  omega

/-- Whether an outer name is linked to when these names were asked for in this order. A name that
the name of the root begins with is linked to only from names that came later. -/
def isLinked (names : List Text) (name outer : Text) : Bool :=
  outer ∈ names ∧ (outer <+: LoggerId.root.name → outer ∈ names.takeWhile (· ≠ name))

/-- The next logger outward of a name: the nearest outer name that is linked to, else the root. -/
def parentIn (names : List Text) (name : Text) : LoggerId :=
  match (outerNames name).find? (isLinked names name) with
  | some outer => .named outer
  | none => .root

theorem parentIn_eq_named {names : List Text} {name outer : Text}
    (parent : parentIn names name = .named outer) :
    outer ∈ outerNames name ∧ outer ∈ names := by
  unfold parentIn at parent
  split at parent
  · rename_i found first
    cases parent
    have linked := List.find?_some first
    simp only [isLinked, Bool.decide_and, Bool.and_eq_true, decide_eq_true_eq] at linked
    exact ⟨List.mem_of_find?_eq_some first, linked.1⟩
  · cases parent

theorem depth_parentIn (names : List Text) (name : Text) :
    (parentIn names name).depth < (LoggerId.named name).depth := by
  cases parent : parentIn names name with
  | root => simp [LoggerId.depth]
  | named outer =>
    have shorter := length_of_mem_outerNames (parentIn_eq_named parent).1
    simp only [LoggerId.depth]
    omega

def ancestry (names : List Text) : LoggerId → List LoggerId
  | .root => [.root]
  | .named name => .named name :: ancestry names (parentIn names name)
termination_by id => id.depth
decreasing_by exact depth_parentIn names name

/-- The registry links its loggers as the names tell that it was asked for, in their order. -/
structure Linked (names : List Text) (registry : Registry) : Prop where
  keys : Table.keys registry.nodes = names
  outward : ∀ name ∈ names, registry.outward name = parentIn names name

theorem linked_initial : Linked [] initial := ⟨rfl, fun _ member => by cases member⟩

theorem dot_not_mem_root : dot ∉ LoggerId.root.name := by decide

/-- Among nested names, one that is linked to from now on is found before another exactly if it is
not a beginning of that one. -/
theorem find?_further {cuts : List Text}
    (nested : cuts.Pairwise fun inner outer => outer ++ [dot] <+: inner)
    {known further : Text → Bool} {new : Text} (unknown : known new = false)
    (now : further new = decide (¬ new <+: LoggerId.root.name))
    (still : ∀ outer, outer ≠ new → further outer = known outer) :
    cuts.find? further =
      if new ∈ cuts ∧ ¬ new <+: (cuts.find? known).elim LoggerId.root.name id then some new
      else cuts.find? known := by
  induction cuts with
  | nil => rfl
  | cons first rest ih =>
    obtain ⟨below, nested_rest⟩ := List.pairwise_cons.mp nested
    have rest_found := ih nested_rest
    by_cases same : first = new
    · subst same
      -- A cut below the new name would leave a dot in the name of the root.
      rw [List.find?_cons_of_neg (p := known) (by simp [unknown])]
      by_cases inside : first <+: LoggerId.root.name
      · have none_below : rest = [] := by
          apply List.eq_nil_iff_forall_not_mem.mpr
          intro outer member
          have inner := ((below outer member).trans inside).subset
          exact absurd (inner (by simp)) dot_not_mem_root
        have passed : further first = false := by simpa [now] using inside
        rw [List.find?_cons_of_neg (by simp [passed]), rest_found]
        simp [none_below, inside]
      · have taken : further first = true := by simpa [now] using inside
        have not_begins : ¬ first <+: (rest.find? known).elim LoggerId.root.name id := by
          cases found : rest.find? known with
          | none => exact inside
          | some outer =>
            intro begins
            have shorter := (below outer (List.mem_of_find?_eq_some found)).length_le
            have longer : first.length ≤ outer.length := begins.length_le
            rw [List.length_append, List.length_singleton] at shorter
            omega
        rw [List.find?_cons_of_pos taken]
        simp [not_begins]
    · have other : new ≠ first := fun h => same h.symm
      rcases found : known first with _ | _
      · rw [List.find?_cons_of_neg (p := known) (by simp [found]),
          List.find?_cons_of_neg (by simp [still first same, found]), rest_found]
        simp [other]
      · rw [List.find?_cons_of_pos (p := known) found,
          List.find?_cons_of_pos (by rw [still first same, found])]
        have begins : new ∈ rest → new <+: first := fun member =>
          (List.prefix_append new [dot]).trans (below new member)
        rw [if_neg]
        rintro ⟨member, begins_not⟩
        exact begins_not (begins ((List.mem_cons.mp member).resolve_left other))

theorem takeWhile_append_of_mem {names : List Text} {name : Text} (member : name ∈ names)
    (more : List Text) :
    (names ++ more).takeWhile (· ≠ name) = names.takeWhile (· ≠ name) := by
  rw [List.takeWhile_append, if_neg]
  intro whole
  have all := List.takeWhile_eq_self_iff.mp
    ((List.takeWhile_prefix (l := names) (· ≠ name)).eq_of_length whole)
  simpa using all name member

theorem parentIn_append {names : List Text} {new name : Text} (fresh : new ∉ names)
    (member : name ∈ names) :
    parentIn (names ++ [new]) name =
      if new ∈ outerNames name ∧ ¬ new <+: (parentIn names name).name then .named new
      else parentIn names name := by
  have unknown : isLinked names name new = false := by simp [isLinked, fresh]
  have before := takeWhile_append_of_mem member [new]
  have absent : new ∉ names.takeWhile (· ≠ name) := fun found =>
    fresh ((List.takeWhile_prefix _).subset found)
  have now : isLinked (names ++ [new]) name new = decide (¬ new <+: LoggerId.root.name) := by
    simp only [isLinked, before, absent, List.mem_append, List.mem_singleton, or_true, true_and,
      imp_false]
  have still : ∀ outer, outer ≠ new →
      isLinked (names ++ [new]) name outer = isLinked names name outer := by
    intro outer different
    rw [isLinked, before, isLinked]
    simp [different]
  have cuts : (outerNames name).Pairwise fun inner outer => outer ++ [dot] <+: inner :=
    cuts_nested name.reverse
  have found := find?_further cuts unknown now still
  unfold parentIn
  rw [found]
  cases (outerNames name).find? (isLinked names name) with
  | none =>
    by_cases taken : new ∈ outerNames name ∧ ¬ new <+: LoggerId.root.name <;>
      simp [taken]
  | some outer =>
    by_cases taken : new ∈ outerNames name ∧ ¬ new <+: outer <;>
      simp [LoggerId.name, taken]

theorem parentIn_new {names : List Text} {new : Text} (fresh : new ∉ names) :
    parentIn (names ++ [new]) new =
      match (outerNames new).find? (· ∈ names) with
      | some outer => .named outer
      | none => .root := by
  have before : (names ++ [new]).takeWhile (· ≠ new) = names := by
    have others : ∀ name ∈ names, decide (name ≠ new) = true := fun name member =>
      decide_eq_true (ne_of_mem_of_not_mem member fresh)
    rw [List.takeWhile_append_of_pos others]
    simp
  have same : ∀ outer ∈ outerNames new,
      isLinked (names ++ [new]) new outer = decide (outer ∈ names) := by
    intro outer member
    have shorter := length_of_mem_outerNames member
    have different : outer ≠ new := by
      rintro rfl
      omega
    rw [isLinked, before]
    by_cases known : outer ∈ names <;> simp [known, different]
  unfold parentIn
  rw [List.find?_congr same]

def relink (new name : Text) (node : LoggerNode) : LoggerNode :=
  if comesBetween new name node then { node with outward := .named new } else node

theorem insert_nodes (registry : Registry) (new : Text) :
    (registry.insert new).nodes =
      Table.put (registry.nodes.map fun entry => (entry.1, relink new entry.1 entry.2)) new
        ⟨0, registry.nearest (outerNames new), none⟩ := by
  unfold insert relink
  dsimp only
  congr 1
  apply List.map_congr_left
  intro entry _
  split <;> rfl

theorem find?_insert {registry : Registry} {new name : Text} (different : new ≠ name) :
    Table.find? (registry.insert new).nodes name =
      (Table.find? registry.nodes name).map (relink new name) := by
  rw [insert_nodes, Table.find?_put_of_ne _ _ different, Table.find?_map_values _ (relink new)]

theorem find?_insert_self (registry : Registry) (new : Text) :
    Table.find? (registry.insert new).nodes new =
      some ⟨0, registry.nearest (outerNames new), none⟩ := by
  rw [insert_nodes, Table.find?_put_self]

def facts (registry : Registry) (id : LoggerId) : Int × Option Nat :=
  (registry.level id, registry.sink id)

theorem facts_insert {registry : Registry} {new : Text}
    (fresh : Table.find? registry.nodes new = none) (id : LoggerId) :
    (registry.insert new).facts id = registry.facts id := by
  cases id with
  | root => rfl
  | named name =>
    by_cases same : new = name
    · subst same
      simp [facts, level, sink, find?_insert_self, fresh]
    · simp only [facts, level, sink, find?_insert same]
      cases Table.find? registry.nodes name with
      | none => rfl
      | some node =>
        simp only [Option.map_some, Option.elim, Option.bind_some, relink]
        split <;> rfl

theorem nearest_eq {registry : Registry} {names : List Text}
    (keys : Table.keys registry.nodes = names) (cuts : List Text) :
    registry.nearest cuts =
      match cuts.find? (· ∈ names) with
      | some outer => .named outer
      | none => .root := by
  have same : ∀ outer ∈ cuts, Table.contains registry.nodes outer = decide (outer ∈ names) := by
    intro outer _
    rw [Bool.eq_iff_iff, Table.contains_iff, keys, decide_eq_true_eq]
  unfold nearest
  cases found : cuts.find? (· ∈ names) <;> simp only [List.find?_congr same, found]

namespace Linked

variable {names : List Text} {registry : Registry}

theorem contains_iff (linked : Linked names registry) (name : Text) :
    Table.contains registry.nodes name = true ↔ name ∈ names := by
  rw [Table.contains_iff, linked.keys]

theorem find?_eq_none (linked : Linked names registry) {name : Text} (fresh : name ∉ names) :
    Table.find? registry.nodes name = none := by
  rwa [Table.find?_eq_none_iff, linked.keys]

theorem exists_node (linked : Linked names registry) {name : Text} (member : name ∈ names) :
    ∃ node, Table.find? registry.nodes name = some node := by
  have present := (linked.contains_iff name).mpr member
  exact Option.isSome_iff_exists.mp present

theorem insert (linked : Linked names registry) {new : Text} (fresh : new ∉ names) :
    Linked (names ++ [new]) (registry.insert new) where
  keys := by
    have kept : Table.keys (registry.nodes.map fun entry => (entry.1, relink new entry.1 entry.2)) =
        names := by
      rw [← linked.keys]
      simp [Table.keys]
    rw [insert_nodes, Table.keys_put, kept, if_neg fresh]
  outward name member := by
    by_cases same : new = name
    · subst same
      rw [parentIn_new fresh, ← nearest_eq linked.keys]
      simp [Registry.outward, find?_insert_self]
    · have old : name ∈ names := by
        rcases List.mem_append.mp member with old | added
        · exact old
        · exact absurd (List.mem_singleton.mp added).symm same
      obtain ⟨node, found⟩ := linked.exists_node old
      have before : node.outward = parentIn names name := by
        rw [← linked.outward name old]
        simp [Registry.outward, found]
      have link : comesBetween new name node = true ↔
          new ∈ outerNames name ∧ ¬ new <+: (parentIn names name).name := by
        rw [← before]
        simp only [comesBetween, Bool.and_eq_true, List.any_eq_true, decide_eq_true_eq,
          exists_eq_right, Bool.not_eq_true', ← Bool.not_eq_true, List.isPrefixOf_iff_prefix]
      rw [parentIn_append fresh old]
      simp only [Registry.outward, find?_insert same, found, Option.map_some, Option.elim, relink]
      by_cases between : comesBetween new name node = true
      · rw [if_pos between, if_pos (link.mp between)]
      · rw [if_neg between, if_neg (mt link.mpr between), before]

theorem update (linked : Linked names registry) (name : Text) {f : LoggerNode → LoggerNode}
    (keeps : ∀ node, (f node).outward = node.outward) :
    Linked names (registry.update name f) := by
  unfold Registry.update
  cases found : Table.find? registry.nodes name with
  | none => exact linked
  | some node =>
    constructor
    · have member : name ∈ names :=
        (linked.contains_iff name).mp (by simp [Table.contains, found])
      rw [Table.keys_put, linked.keys, if_pos member]
    · intro other member
      rw [← linked.outward other member]
      by_cases same : name = other
      · subst same
        simp [Registry.outward, found, keeps]
      · simp [Registry.outward, Table.find?_put_of_ne _ _ same]

theorem setLevel (linked : Linked names registry) (id : LoggerId) (level : Int) :
    Linked names (registry.setLevel id level) := by
  cases id with
  | root => exact ⟨linked.keys, linked.outward⟩
  | named name => exact linked.update name fun _ => rfl

theorem setSink (linked : Linked names registry) (id : LoggerId) (sink : Option Nat) :
    Linked names (registry.setSink id sink) := by
  cases id with
  | root => exact ⟨linked.keys, linked.outward⟩
  | named name => exact linked.update name fun _ => rfl

end Linked

def enter (names : List Text) : LoggerId → List Text
  | .root => names
  | .named name => if name ∈ names then names else names ++ [name]

def Entered (names : List Text) : LoggerId → Prop
  | .root => True
  | .named name => name ∈ names

theorem entered_enter (names : List Text) (id : LoggerId) : Entered (enter names id) id := by
  cases id with
  | root => exact True.intro
  | named name =>
    simp only [Entered, enter]
    split
    · assumption
    · simp

theorem Entered.enter {names : List Text} {id : LoggerId} (entered : Entered names id)
    (other : LoggerId) : Entered (Registry.enter names other) id := by
  cases id with
  | root => exact True.intro
  | named name =>
    cases other with
    | root => exact entered
    | named new =>
      simp only [Entered, Registry.enter] at *
      split
      · exact entered
      · exact List.mem_append_left _ entered

section Operations

variable {names : List Text} {registry : Registry}

theorem Linked.enrol (linked : Linked names registry) (id : LoggerId) :
    Linked (enter names id) (registry.enrol id) := by
  cases id with
  | root => exact linked
  | named name =>
    simp only [enter, Registry.enrol]
    by_cases known : name ∈ names
    · rw [if_pos known, if_pos ((linked.contains_iff name).mpr known)]
      exact linked
    · rw [if_neg known, if_neg (mt (linked.contains_iff name).mp known)]
      exact linked.insert known

theorem facts_enrol (registry : Registry) (id other : LoggerId) :
    (registry.enrol id).facts other = registry.facts other := by
  cases id with
  | root => rfl
  | named name =>
    unfold enrol
    dsimp only
    cases found : Table.find? registry.nodes name with
    | none =>
      rw [if_neg (by simp [Table.contains, found])]
      exact facts_insert found other
    | some node => rw [if_pos (by simp [Table.contains, found])]

theorem facts_update {name : Text} {node : LoggerNode}
    (found : Table.find? registry.nodes name = some node) (f : LoggerNode → LoggerNode)
    (other : LoggerId) :
    (registry.update name f).facts other =
      if .named name = other then ((f node).level, (f node).sink) else registry.facts other := by
  unfold update
  rw [found]
  cases other with
  | root => rfl
  | named otherName =>
    by_cases same : name = otherName
    · subst same
      simp [facts, level, sink]
    · simp [facts, level, sink, same, Table.find?_put_of_ne]

theorem facts_of_node {name : Text} {node : LoggerNode}
    (found : Table.find? registry.nodes name = some node) :
    registry.facts (.named name) = (node.level, node.sink) := by
  simp [facts, level, sink, found]

theorem facts_setLevel (linked : Linked names registry) {id : LoggerId} (entered : Entered names id)
    (value : Int) (other : LoggerId) :
    (registry.setLevel id value).facts other =
      if id = other then (value, (registry.facts other).2) else registry.facts other := by
  cases id with
  | root => cases other <;> simp [facts, setLevel, level, sink]
  | named name =>
    obtain ⟨node, found⟩ := linked.exists_node entered
    refine (facts_update found _ other).trans ?_
    split
    · rename_i same
      rw [← same, facts_of_node found]
    · rfl

theorem facts_setSink (linked : Linked names registry) {id : LoggerId} (entered : Entered names id)
    (value : Option Nat) (other : LoggerId) :
    (registry.setSink id value).facts other =
      if id = other then ((registry.facts other).1, value) else registry.facts other := by
  cases id with
  | root => cases other <;> simp [facts, setSink, level, sink]
  | named name =>
    obtain ⟨node, found⟩ := linked.exists_node entered
    refine (facts_update found _ other).trans ?_
    split
    · rename_i same
      rw [← same, facts_of_node found]
    · rfl

end Operations

namespace Linked

variable {names : List Text} {registry : Registry}

theorem lineageWithin (linked : Linked names registry) (named : [] ∉ names) {fuel : Nat}
    {name : Text} (member : name ∈ names) (enough : name.length ≤ fuel) :
    registry.lineageWithin fuel (.named name) = ancestry names (.named name) := by
  -- Each link leads to a shorter name, so the fuel outlasts the way.
  induction fuel generalizing name with
  | zero =>
    have empty : name = [] := List.length_eq_zero_iff.mp (by omega)
    exact absurd (empty ▸ member) named
  | succ fuel ih =>
    rw [ancestry, Registry.lineageWithin, linked.outward name member]
    cases parent : parentIn names name with
    | root => cases fuel <;> simp [Registry.lineageWithin, ancestry]
    | named outer =>
      obtain ⟨cut, known⟩ := parentIn_eq_named parent
      have shorter := length_of_mem_outerNames cut
      rw [ih known (by omega)]

theorem lineage (linked : Linked names registry) (named : [] ∉ names) {id : LoggerId}
    (entered : Entered names id) : registry.lineage id = ancestry names id := by
  cases id with
  | root =>
    rw [ancestry]
    rfl
  | named name => exact linked.lineageWithin named entered (Nat.le_refl _)

end Linked

theorem depth_of_mem_ancestry {names : List Text} {id outer : LoggerId}
    (member : outer ∈ ancestry names id) : outer.depth ≤ id.depth := by
  fun_induction ancestry names id with
  | case1 => rw [List.mem_singleton.mp member]
  | case2 name ih =>
    rcases List.mem_cons.mp member with rfl | member
    · exact Nat.le_refl _
    · exact (ih member).trans (depth_parentIn names name).le

theorem nodup_ancestry (names : List Text) (id : LoggerId) : (ancestry names id).Nodup := by
  fun_induction ancestry names id with
  | case1 => exact List.pairwise_singleton _ _
  | case2 name ih =>
    refine List.nodup_cons.mpr ⟨fun member => ?_, ih⟩
    have deeper := depth_of_mem_ancestry member
    have shallower := depth_parentIn names name
    omega

/-- A name in which no dot follows a dot, with no outer name among those asked for that the name of
the root begins with. -/
def Steady (names : List Text) (name : Text) : Prop :=
  ¬ [dot, dot] <:+: name ∧ ∀ outer ∈ outerNames name, outer ∈ names → ¬ outer <+: LoggerId.root.name

instance (names : List Text) (name : Text) : Decidable (Steady names name) :=
  inferInstanceAs (Decidable (_ ∧ _))

theorem cuts_cons_of_ne {g : Glyph} (other : g ≠ dot) (reversed : List Glyph) :
    cutsOfReversed (g :: reversed) = cutsOfReversed reversed := by
  cases reversed with
  | nil => rfl
  | cons h rest => rw [cutsOfReversed, if_neg other]

theorem cuts_tail {reversed : List Glyph} (spaced : ¬ [dot, dot] <:+: reversed) :
    cutsOfReversed reversed = [] ∨ ∃ rest, ¬ [dot, dot] <:+: rest ∧
      cutsOfReversed reversed = rest.reverse :: cutsOfReversed rest := by
  fun_induction cutsOfReversed reversed with
  | case1 => exact .inl rfl
  | case2 => exact .inl rfl
  | case3 h rest ih =>
    have other : h ≠ dot := by
      rintro rfl
      exact spaced ⟨[], rest, rfl⟩
    refine .inr ⟨h :: rest, fun inside => spaced (inside.trans ⟨[dot], [], by simp⟩), ?_⟩
    rw [cuts_cons_of_ne other]
  | case4 g h rest _ ih =>
    exact ih fun inside => spaced (inside.trans ⟨[g], [], by simp⟩)

theorem outerNames_tail {name : Text} (spaced : ¬ [dot, dot] <:+: name) :
    outerNames name = [] ∨ ∃ outer, ¬ [dot, dot] <:+: outer ∧
      outerNames name = outer :: outerNames outer := by
  have reversed : ¬ [dot, dot] <:+: name.reverse := by
    intro inside
    exact spaced (List.reverse_infix.mp (by simpa using inside))
  rcases cuts_tail reversed with none | ⟨rest, rest_spaced, cuts⟩
  · exact .inl none
  · refine .inr ⟨rest.reverse, fun inside => rest_spaced ?_, ?_⟩
    · exact List.reverse_infix.mp (by simpa using inside)
    · simpa [outerNames] using cuts

namespace Steady

variable {names : List Text} {name : Text}

theorem mono {more : List Text} (steady : Steady more name) (fewer : names ⊆ more) :
    Steady names name :=
  ⟨steady.1, fun outer cut known => steady.2 outer cut (fewer known)⟩

theorem isLinked_eq (steady : Steady names name) {outer : Text} (cut : outer ∈ outerNames name) :
    isLinked names name outer = decide (outer ∈ names) := by
  unfold isLinked
  by_cases known : outer ∈ names
  · simp [known, steady.2 outer cut known]
  · simp [known]

theorem parentIn_eq (steady : Steady names name) :
    parentIn names name =
      match (outerNames name).find? (· ∈ names) with
      | some outer => .named outer
      | none => .root := by
  unfold parentIn
  rw [List.find?_congr fun outer cut => steady.isLinked_eq cut]

theorem ancestry_parentIn (steady : Steady names name) :
    ancestry names (parentIn names name) =
      ((outerNames name).filter (· ∈ names)).map .named ++ [.root] := by
  induction size : name.length using Nat.strong_induction_on generalizing name with
  | _ length ih =>
    rcases outerNames_tail steady.1 with none | ⟨outer, spaced, cuts⟩
    · simp [parentIn, none, ancestry]
    · have steady_outer : Steady names outer :=
        ⟨spaced, fun other cut => steady.2 other (cuts ▸ List.mem_cons_of_mem _ cut)⟩
      have shorter : outer.length < length := by
        rw [← size]
        exact length_of_mem_outerNames (by rw [cuts]; simp)
      have rest := ih outer.length shorter steady_outer rfl
      rw [steady.parentIn_eq, cuts]
      by_cases known : outer ∈ names
      · rw [List.find?_cons_of_pos (by simpa using known), ancestry, rest,
          List.filter_cons_of_pos (by simpa using known)]
        rfl
      · rw [List.find?_cons_of_neg (by simpa using known), ← steady_outer.parentIn_eq, rest,
          List.filter_cons_of_neg (by simpa using known)]

/-- The way of a steady name leads through all its outer names that were asked for. -/
theorem ancestry_eq (steady : Steady names name) :
    ancestry names (.named name) =
      .named name :: ((outerNames name).filter (· ∈ names)).map .named ++ [.root] := by
  rw [ancestry, steady.ancestry_parentIn]
  rfl

end Steady

end Registry

end MarketSnapshot
