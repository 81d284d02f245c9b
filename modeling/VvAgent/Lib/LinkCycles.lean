import Mathlib.Algebra.GroupWithZero.Nat
import Mathlib.Data.Fintype.Order
import Mathlib.Data.List.GetD
import Mathlib.Data.Set.Finite.List
import Mathlib.Logic.Relation
import Mathlib.Order.WellFounded
import VvAgent.Lib.FileChange

/-!
How long a walk of a tree can become. A walk enters what the entries of a directory lead to, by
as many links as a lookup may follow. Where no directory leads back to itself, the tree alone
bounds the walk; where one does, only the number of links ends it.
-/

namespace VvAgent.Lib
open Relation

namespace FileTree

variable (tree : FileTree)

/-- An entry of a directory leads to another one, by however many links. -/
def Enters (place target : Place) : Prop :=
  ∃ name ∈ tree.childNames place, tree.isDir target = true ∧
    ∃ links left, tree.lookup links place [name] = .ok (target, left)

/-- No directory that a walk can come to leads back to itself. -/
def LoopFree (root : Place) : Prop :=
  ∀ place, ReflTransGen tree.Enters root place → ¬TransGen tree.Enters place place

variable {tree}

/-! ### More links -/

theorem lookup_more {links : Nat} (more : Nat) {place found : Place} {names : List Name}
    {left : Nat} (h : tree.lookup links place names = .ok (found, left)) :
    tree.lookup (links + more) place names = .ok (found, left + more) :=
  seek_more false links more names place found left h

/-! ### A loop -/

/-- So many directories can be entered one after the other. -/
inductive Steps (tree : FileTree) : Nat → Place → Prop where
  | none (place : Place) : Steps tree 0 place
  | enter {count : Nat} {place target : Place} (hentry : tree.Enters place target)
      (hrest : Steps tree count target) : Steps tree (count + 1) place

/-- From a place that leads to a loop, any number of directories can be entered. -/
theorem steps_of_loop {loop : Place} (hloop : TransGen tree.Enters loop loop) (count : Nat)
    {place : Place} (hplace : ReflTransGen tree.Enters place loop) : Steps tree count place := by
  induction count generalizing place with
  | zero => exact .none place
  | succ count ih =>
      have hahead : TransGen tree.Enters place loop := hloop.trans_right hplace
      obtain ⟨target, hentry, hrest⟩ := TransGen.head'_iff.mp hahead
      exact .enter hentry (ih hrest)

theorem visit_sublist {fuel links : Nat} {place : Place} {route : List Name} {name : Name}
    (hname : name ∈ tree.childNames place) :
    (tree.visit fuel links place route name).Sublist (tree.descend (fuel + 1) links place route) := by
  rw [descend_succ, List.flatMap_def]
  exact List.sublist_flatten_of_mem (List.mem_map_of_mem hname)

/-- A walk with enough links goes so far. -/
theorem length_of_steps {count : Nat} {place : Place} (h : Steps tree count place) :
    ∃ cost, ∀ more fuel route, count ≤ fuel →
      count ≤ (tree.descend fuel (cost + more) place route).length := by
  induction h with
  | none place => exact ⟨0, fun _ _ _ _ => Nat.zero_le _⟩
  | @enter count place target hentry hrest ih =>
      obtain ⟨name, hname, hdir, links, left, hlookup⟩ := hentry
      obtain ⟨cost, hcost⟩ := ih
      refine ⟨links + cost, fun more fuel route hfuel => ?_⟩
      cases fuel with
      | zero => omega
      | succ fuel =>
          have hbelow := hcost (left + more) fuel (route ++ [name]) (by omega)
          have hmore := lookup_more (cost + more) hlookup
          rw [← Nat.add_assoc] at hmore
          have hleft : left + (cost + more) = cost + (left + more) := by omega
          have hsublist : (tree.visit fuel (links + cost + more) place route name).Sublist
              (tree.descend (fuel + 1) (links + cost + more) place route) := visit_sublist hname
          have hlength := hsublist.length_le
          rw [visit, hmore, hleft] at hlength
          simp only [hdir, if_true, List.length_cons] at hlength
          omega

theorem unbounded_of_loop {root loop : Place} (hreach : ReflTransGen tree.Enters root loop)
    (hloop : TransGen tree.Enters loop loop) (bound : Nat) :
    ∃ links, bound < (tree.walk links root).length := by
  obtain ⟨cost, hcost⟩ := length_of_steps (steps_of_loop hloop (bound + 1) hreach)
  refine ⟨cost + (bound + 1), hcost (bound + 1) _ [] ?_⟩
  have hfuel : cost + (bound + 1) + 1 ≤ (cost + (bound + 1) + 1) * (tree.depth + 1) :=
    Nat.le_mul_of_pos_right _ (Nat.succ_pos _)
  omega

/-! ### No loop -/

theorem visit_entry {fuel links : Nat} {place : Place} {route : List Name} {name : Name}
    {entry : Entry} (h : entry ∈ tree.visit fuel links place route name) :
    (∃ target, entry = ⟨route ++ [name], target⟩ ∧
        ∀ dir, target = some dir → tree.isDir dir = true →
          ∃ left, tree.lookup links place [name] = .ok (dir, left)) ∨
      ∃ target left, tree.lookup links place [name] = .ok (target, left) ∧
        tree.isDir target = true ∧ entry ∈ tree.descend fuel left target (route ++ [name]) := by
  unfold visit at h
  cases hlookup : tree.lookup links place [name] with
  | error error =>
      rw [hlookup] at h
      obtain rfl := List.mem_singleton.mp h
      exact .inl ⟨none, rfl, by simp⟩
  | ok found =>
      obtain ⟨target, left⟩ := found
      rw [hlookup] at h
      rcases List.mem_cons.mp h with rfl | hbelow
      · refine .inl ⟨some target, rfl, ?_⟩
        rintro dir hdir _
        obtain rfl := Option.some.inj hdir
        exact ⟨left, rfl⟩
      · split_ifs at hbelow with hdir
        · exact .inr ⟨target, left, rfl, hdir, hbelow⟩
        · cases hbelow

/-- A directory that a walk comes to was entered step by step. -/
theorem transGen_of_descend {fuel links : Nat} {place dir : Place} {route : List Name}
    {entry : Entry} (h : entry ∈ tree.descend fuel links place route)
    (htarget : entry.target = some dir) (hdir : tree.isDir dir = true) :
    TransGen tree.Enters place dir := by
  induction fuel generalizing links place route with
  | zero => cases h
  | succ fuel ih =>
      rw [descend_succ, List.mem_flatMap] at h
      obtain ⟨name, hname, hvisit⟩ := h
      rcases visit_entry hvisit with ⟨target, rfl, hlookup⟩ | ⟨target, left, hlookup, hisdir, hbelow⟩
      · obtain ⟨left, hfound⟩ := hlookup dir htarget hdir
        exact .single ⟨name, hname, hdir, links, left, hfound⟩
      · exact .head ⟨name, hname, hisdir, links, left, hlookup⟩ (ih hbelow)

/-- What a walk meets below an entry was entered from the directory it leads to. -/
theorem transGen_of_prefix {fuel links : Nat} {place upper lower : Place} {route : List Name}
    {first second : Entry} (hfirst : first ∈ tree.descend fuel links place route)
    (hsecond : second ∈ tree.descend fuel links place route) (hupper : first.target = some upper)
    (hlower : second.target = some lower) (hdir : tree.isDir upper = true)
    (hdir' : tree.isDir lower = true) {next : Name} {back : List Name}
    (hroute : second.route = first.route ++ next :: back) : TransGen tree.Enters upper lower := by
  induction fuel generalizing links place route with
  | zero => cases hfirst
  | succ fuel ih =>
      rw [descend_succ, List.mem_flatMap] at hfirst hsecond
      obtain ⟨name, _, hvisit⟩ := hfirst
      obtain ⟨name', _, hvisit'⟩ := hsecond
      obtain ⟨back₁, hback⟩ := route_of_visit (fun _ _ _ => route_of_descend _ _ _ _) hvisit
      obtain ⟨back₂, hback'⟩ := route_of_visit (fun _ _ _ => route_of_descend _ _ _ _) hvisit'
      obtain rfl : name' = name := by
        rw [hback, hback', List.append_assoc, List.append_cancel_left_eq, List.cons_append,
          List.cons.injEq] at hroute
        exact hroute.1
      rcases visit_entry hvisit with ⟨target, rfl, hlookup⟩ | ⟨target, left, hlookup, _, hbelow⟩
      · obtain ⟨left, hfound⟩ := hlookup upper hupper hdir
        rcases visit_entry hvisit' with ⟨target', rfl, _⟩ | ⟨target', left', hlookup', _, hbelow'⟩
        · simp at hroute
        · rw [hfound] at hlookup'
          obtain ⟨rfl, rfl⟩ := Prod.mk.inj (Except.ok.inj hlookup')
          exact transGen_of_descend hbelow' hlower hdir'
      · rcases visit_entry hvisit' with ⟨target', rfl, _⟩ | ⟨target', left', hlookup', _, hbelow'⟩
        · obtain ⟨next', back', hlonger⟩ := route_of_descend _ _ _ _ hbelow
          have hlength := congrArg List.length hroute
          simp only [hlonger, List.length_append, List.length_cons, List.length_nil] at hlength
          omega
        · rw [hlookup] at hlookup'
          obtain ⟨rfl, rfl⟩ := Prod.mk.inj (Except.ok.inj hlookup')
          exact ih hbelow hbelow'

/-- The places of a tree. -/
theorem finite_reach (root : Place) : Finite {place // ReflTransGen tree.Enters root place} := by
  have hsubset : {place | ReflTransGen tree.Enters root place} ⊆
      {place | place ∈ root :: [] :: tree.nodes.map Prod.fst} := by
    intro place hplace
    rcases ReflTransGen.cases_tail hplace with rfl | ⟨_, _, _, _, hdir, _⟩
    · simp
    · by_cases hnil : place = []
      · simp [hnil]
      · have hnode : tree.node place ≠ none := by simp [isDir_iff.mp hdir]
        obtain ⟨node, hmem⟩ := (mem_nodes_iff hnil).mpr hnode
        exact List.mem_cons_of_mem _ (List.mem_cons_of_mem _ (List.mem_map_of_mem hmem))
  exact (List.finite_toSet _).subset hsubset

/-- However many links a lookup may follow, it finds the same. -/
theorem lookup_unique {links links' : Nat} {place first second : Place} {names : List Name}
    {left left' : Nat} (hfirst : tree.lookup links place names = .ok (first, left))
    (hsecond : tree.lookup links' place names = .ok (second, left')) : first = second := by
  have hmore := lookup_more links' hfirst
  have hmore' := lookup_more links hsecond
  rw [Nat.add_comm links' links, hmore] at hmore'
  exact (Prod.mk.inj (Except.ok.inj hmore')).1

/-- What is below the entries of a directory bounds what is below the directory. -/
theorem bounded_entry {place : Place} {name : Name} (hname : name ∈ tree.childNames place)
    (hbelow : ∀ target, tree.Enters place target →
      ∃ bound, ∀ fuel links route, (tree.descend fuel links target route).length ≤ bound) :
    ∃ bound, ∀ fuel links route, (tree.visit fuel links place route name).length ≤ bound := by
  by_cases hdir : ∃ target, tree.isDir target = true ∧
      ∃ links left, tree.lookup links place [name] = .ok (target, left)
  · obtain ⟨target, hisdir, links, left, hlookup⟩ := hdir
    obtain ⟨bound, hbound⟩ := hbelow target ⟨name, hname, hisdir, links, left, hlookup⟩
    refine ⟨bound + 1, fun fuel links' route => ?_⟩
    unfold visit
    cases hother : tree.lookup links' place [name] with
    | error error => simp
    | ok found =>
        obtain rfl := lookup_unique hother hlookup
        simp only [hisdir, if_true, List.length_cons]
        exact Nat.succ_le_succ (hbound fuel found.2 (route ++ [name]))
  · refine ⟨1, fun fuel links route => ?_⟩
    unfold visit
    cases hlookup : tree.lookup links place [name] with
    | error error => simp
    | ok found =>
        have hnodir : tree.isDir found.1 = false := by
          rw [← Bool.not_eq_true]
          intro hisdir
          exact hdir ⟨found.1, hisdir, links, found.2, hlookup⟩
        simp [hnodir]

theorem length_flatMap_le {α β : Type} {l : List α} {f : α → List β} {bound : α → Nat}
    (h : ∀ a ∈ l, (f a).length ≤ bound a) : (l.flatMap f).length ≤ (l.map bound).sum := by
  induction l with
  | nil => exact Nat.le_refl _
  | cons a l ih =>
      have hfirst := h a (by simp)
      have hrest := ih fun b hb => h b (by simp [hb])
      rw [List.flatMap_cons, List.length_append, List.map_cons, List.sum_cons]
      omega

/-- Without a loop, what a walk meets below a directory is bounded by the tree. -/
theorem bounded_of_loopFree {root : Place} (hfree : tree.LoopFree root) :
    ∃ bound, ∀ fuel links route, (tree.descend fuel links root route).length ≤ bound := by
  have hfinite : Finite {place // ReflTransGen tree.Enters root place} := finite_reach root
  let below (first second : {place // ReflTransGen tree.Enters root place}) : Prop :=
    TransGen tree.Enters second.1 first.1
  have htrans : IsTrans _ below := ⟨fun _ _ _ hfirst hsecond => hsecond.trans hfirst⟩
  have hirrefl : Std.Irrefl below := ⟨fun place hloop => hfree place.1 place.2 hloop⟩
  have hwell : WellFounded below := Finite.wellFounded_of_trans_of_irrefl below
  have hall : ∀ place : {place // ReflTransGen tree.Enters root place},
      ∃ bound, ∀ fuel links route, (tree.descend fuel links place.1 route).length ≤ bound := by
    intro place
    induction place using hwell.induction with
    | _ place ih =>
        have hentry : ∀ name, ∃ bound, name ∈ tree.childNames place.1 →
            ∀ fuel links route, (tree.visit fuel links place.1 route name).length ≤ bound := by
          intro name
          by_cases hname : name ∈ tree.childNames place.1
          · obtain ⟨bound, hbound⟩ := bounded_entry hname fun target hentry =>
              ih ⟨target, place.2.tail hentry⟩ (.single hentry)
            exact ⟨bound, fun _ => hbound⟩
          · exact ⟨0, fun hmem => absurd hmem hname⟩
        choose bound hbound using hentry
        refine ⟨((tree.childNames place.1).map bound).sum, fun fuel links route => ?_⟩
        cases fuel with
        | zero => exact Nat.zero_le _
        | succ fuel =>
            rw [descend_succ]
            exact length_flatMap_le fun name hname => hbound name hname fuel links route
  exact hall ⟨root, .refl⟩

end FileTree

end VvAgent.Lib
