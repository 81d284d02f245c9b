import Mathlib.Data.List.Dedup
import Mathlib.Data.List.Infix

/-!
A tree of directories, files and symbolic links, and the lookup of paths in it. The entries
are kept under their places, the names that lead to them from the top through directories
alone; a lookup follows links, at most as many as it is allowed, and ends at a place. Walking a
directory enters what its entries lead to.
-/

namespace VvAgent.Lib

abbrev Name := List Char

/-- A name that stands for an entry of a directory, as opposed to a move between them. -/
structure ProperName (name : Name) : Prop where
  nonempty : name ≠ []
  notHere : name ≠ ['.']
  notUp : name ≠ ['.', '.']
  noSlash : '/' ∉ name
  noNul : Char.ofNat 0 ∉ name

theorem properName_iff (name : Name) :
    ProperName name ↔
      name ≠ [] ∧ name ≠ ['.'] ∧ name ≠ ['.', '.'] ∧ '/' ∉ name ∧ Char.ofNat 0 ∉ name :=
  ⟨fun h => ⟨h.1, h.2, h.3, h.4, h.5⟩, fun h => ⟨h.1, h.2.1, h.2.2.1, h.2.2.2.1, h.2.2.2.2⟩⟩

instance (name : Name) : Decidable (ProperName name) :=
  decidable_of_iff _ (properName_iff name).symm

theorem ProperName.moves {name : Name} (h : ProperName name) :
    name ≠ [] ∧ name ≠ ['.'] ∧ name ≠ ['.', '.'] :=
  ⟨h.nonempty, h.notHere, h.notUp⟩

/-- The names that lead to an entry from the top. -/
abbrev Place := List Name

inductive Node where
  | file (content : ByteArray)
  | dir
  | link (target : List Char)

def nodeAt (nodes : List (Place × Node)) (place : Place) : Option Node :=
  if place = [] then some .dir else nodes.lookup place

/-- The entries of a file system, each in a directory of it. -/
structure FileTree where
  nodes : List (Place × Node)
  proper : ∀ entry ∈ nodes, ∀ name ∈ entry.1, ProperName name
  closed : ∀ place name, nodeAt nodes (place ++ [name]) ≠ none → nodeAt nodes place = some .dir

inductive FileError where
  | notFound | notADirectory | tooManyLinks | alreadyExists | isADirectory | invalidName
  deriving DecidableEq

namespace FileTree

variable (tree : FileTree)

def node (place : Place) : Option Node := nodeAt tree.nodes place

def isDir (place : Place) : Bool :=
  match tree.node place with
  | some .dir => true
  | _ => false

def isFile (place : Place) : Bool :=
  match tree.node place with
  | some (.file _) => true
  | _ => false

def isLink (place : Place) : Bool :=
  match tree.node place with
  | some (.link _) => true
  | _ => false

/-- A lookup along names, from a place, up to the first link, where it goes on as it is told.
One that is to create an entry ends at a missing one, if that is the last. -/
def stepThrough (create : Bool) (links : Nat)
    (follow : Place → List Char → List Name → Except FileError (Place × Nat)) :
    Place → List Name → Except FileError (Place × Nat)
  | place, [] => .ok (place, links)
  | place, name :: rest =>
      if !tree.isDir place then .error .notADirectory
      else if name = [] ∨ name = ['.'] then stepThrough create links follow place rest
      else if name = ['.', '.'] then stepThrough create links follow place.dropLast rest
      else
        match tree.node (place ++ [name]) with
        | none =>
            if create && rest.isEmpty then .ok (place ++ [name], links) else .error .notFound
        | some (.link target) => follow place target rest
        | some _ => stepThrough create links follow (place ++ [name]) rest

/-- A lookup that may follow so many links; it says how many it has left. -/
def seek (create : Bool) : Nat → Place → List Name → Except FileError (Place × Nat)
  | 0 => tree.stepThrough create 0 fun _ _ _ => .error .tooManyLinks
  | links + 1 => tree.stepThrough create (links + 1) fun place target rest =>
      seek create links (if target.head? = some '/' then [] else place)
        (target.splitOn '/' ++ rest)

/-- A lookup of what exists. -/
def lookup (links : Nat) (place : Place) (names : List Name) : Except FileError (Place × Nat) :=
  tree.seek false links place names

def childNames (place : Place) : List Name :=
  (tree.nodes.filterMap fun entry =>
    if entry.1.dropLast = place then entry.1.getLast? else none).dedup

/-- What a walk meets: the names it came by, and where they lead, if anywhere. -/
structure Entry where
  route : List Name
  target : Option Place
  deriving DecidableEq

/-- Everything below a directory, with the directories that links lead to. -/
def descend : Nat → Nat → Place → List Name → List Entry
  | 0, _, _, _ => []
  | fuel + 1, links, place, route =>
      (tree.childNames place).flatMap fun name =>
        match tree.lookup links place [name] with
        | .error _ => [⟨route ++ [name], none⟩]
        | .ok (target, left) =>
            ⟨route ++ [name], some target⟩ ::
              if tree.isDir target then descend fuel left target (route ++ [name]) else []

/-- The length of the longest place. -/
def depth : Nat := (tree.nodes.map fun entry => entry.1.length).foldr max 0

/-- As many links as an operating system follows in one lookup. -/
def maxLinks : Nat := 40

/-- Each step of a walk goes down one level or uses up a link, which ends it in time. -/
def walk (links : Nat) (place : Place) : List Entry :=
  tree.descend ((links + 1) * (tree.depth + 1)) links place []

variable {tree}

@[simp] theorem node_nil : tree.node [] = some .dir := rfl

theorem isDir_iff {place : Place} : tree.isDir place = true ↔ tree.node place = some .dir := by
  unfold isDir
  cases tree.node place with
  | none => simp
  | some node => cases node <;> simp

theorem node_of_isFile {place : Place} (h : tree.isFile place = true) : tree.node place ≠ none := by
  intro hnone
  simp [isFile, hnone] at h

theorem closed_node {place : Place} {name : Name} (h : tree.node (place ++ [name]) ≠ none) :
    tree.node place = some .dir :=
  tree.closed place name h

/-- Everything on the way to an entry is a directory. -/
theorem node_above (back place : Place) (hback : back ≠ [])
    (h : tree.node (place ++ back) ≠ none) : tree.node place = some .dir := by
  induction back using List.reverseRecOn with
  | nil => exact absurd rfl hback
  | append_singleton back name ih =>
      rw [← List.append_assoc] at h
      have hparent := closed_node h
      by_cases hnil : back = []
      · subst hnil
        simpa using hparent
      · exact ih hnil (by simp [hparent])

theorem mem_nodes_iff {place : Place} (hplace : place ≠ []) :
    (∃ node, (place, node) ∈ tree.nodes) ↔ tree.node place ≠ none := by
  rw [node, nodeAt, if_neg hplace, Ne, List.lookup_eq_none_iff]
  constructor
  · rintro ⟨node, hmem⟩ hnone
    simpa using hnone _ hmem
  · intro hsome
    by_contra hnone
    refine hsome fun entry hentry => ?_
    have hne : place ≠ entry.1 := by
      rintro rfl
      exact hnone ⟨entry.2, hentry⟩
    simpa using hne

theorem proper_of_node {place : Place} (h : tree.node place ≠ none) :
    ∀ name ∈ place, ProperName name := by
  by_cases hnil : place = []
  · subst hnil
    simp
  · obtain ⟨node, hmem⟩ := (mem_nodes_iff hnil).mpr h
    exact tree.proper _ hmem

theorem le_foldr_max (lengths : List Nat) (length : Nat) (h : length ∈ lengths) :
    length ≤ lengths.foldr max 0 := by
  induction lengths with
  | nil => simp at h
  | cons first rest ih =>
      rw [List.foldr_cons]
      rcases List.mem_cons.mp h with rfl | hrest
      · exact Nat.le_max_left _ _
      · exact (ih hrest).trans (Nat.le_max_right _ _)

theorem length_le_depth {place : Place} (h : tree.node place ≠ none) :
    place.length ≤ tree.depth := by
  by_cases hnil : place = []
  · subst hnil
    simp
  · obtain ⟨node, hmem⟩ := (mem_nodes_iff hnil).mpr h
    exact le_foldr_max _ _ (List.mem_map.mpr ⟨_, hmem, rfl⟩)

theorem mem_childNames {place : Place} {name : Name} :
    name ∈ tree.childNames place ↔ tree.node (place ++ [name]) ≠ none := by
  rw [← mem_nodes_iff (by simp), childNames, List.mem_dedup, List.mem_filterMap]
  constructor
  · rintro ⟨⟨other, node⟩, hmem, hname⟩
    split_ifs at hname with hplace
    refine ⟨node, ?_⟩
    rw [← hplace, List.dropLast_append_getLast? name hname]
    exact hmem
  · rintro ⟨node, hmem⟩
    exact ⟨(place ++ [name], node), hmem, by simp⟩

/-- A place where a lookup can end. -/
def Settled (tree : FileTree) (place : Place) : Prop :=
  tree.node place ≠ none ∧ tree.isLink place = false

theorem settled_of_isDir {place : Place} (h : tree.isDir place = true) : tree.Settled place := by
  have hnode := isDir_iff.mp h
  simp [Settled, isLink, hnode]

theorem settled_nil : tree.Settled [] := settled_of_isDir rfl

theorem settled_dropLast {place : Place} (h : tree.Settled place) : tree.Settled place.dropLast := by
  by_cases hnil : place = []
  · subst hnil
    exact settled_nil
  · have hnode := h.1
    rw [← List.dropLast_append_getLast hnil] at hnode
    exact settled_of_isDir (isDir_iff.mpr (closed_node hnode))

/-- What a lookup meets at one name of a path. -/
inductive Step (tree : FileTree) (place : Place) (name : Name) : Prop where
  | notDir (hdir : tree.isDir place = false)
  | here (hdir : tree.isDir place = true) (hname : name = [] ∨ name = ['.'])
  | up (hdir : tree.isDir place = true) (hname : name = ['.', '.'])
  | missing (hdir : tree.isDir place = true) (hname : name ≠ [] ∧ name ≠ ['.'] ∧ name ≠ ['.', '.'])
      (hnode : tree.node (place ++ [name]) = none)
  | link (target : List Char) (hdir : tree.isDir place = true)
      (hname : name ≠ [] ∧ name ≠ ['.'] ∧ name ≠ ['.', '.'])
      (hnode : tree.node (place ++ [name]) = some (.link target))
  | enter (hdir : tree.isDir place = true) (hname : name ≠ [] ∧ name ≠ ['.'] ∧ name ≠ ['.', '.'])
      (hnode : tree.Settled (place ++ [name]))

theorem step (tree : FileTree) (place : Place) (name : Name) : Step tree place name := by
  cases hdir : tree.isDir place with
  | false => exact .notDir hdir
  | true =>
      by_cases hhere : name = [] ∨ name = ['.']
      · exact .here hdir hhere
      · by_cases hup : name = ['.', '.']
        · exact .up hdir hup
        · rw [not_or] at hhere
          have hname := And.intro hhere.1 (And.intro hhere.2 hup)
          cases hnode : tree.node (place ++ [name]) with
          | none => exact .missing hdir hname hnode
          | some node =>
              cases node with
              | link target => exact .link target hdir hname hnode
              | file content => exact .enter hdir hname (by simp [Settled, isLink, hnode])
              | dir => exact .enter hdir hname (by simp [Settled, isLink, hnode])

section StepThrough

variable {create : Bool} {links : Nat} {place : Place} {name : Name} {rest : List Name}
  {follow : Place → List Char → List Name → Except FileError (Place × Nat)}

theorem stepThrough_notDir (hdir : tree.isDir place = false) :
    tree.stepThrough create links follow place (name :: rest) = .error .notADirectory := by
  simp [stepThrough, hdir]

theorem stepThrough_here (hdir : tree.isDir place = true) (hname : name = [] ∨ name = ['.']) :
    tree.stepThrough create links follow place (name :: rest) =
      tree.stepThrough create links follow place rest := by
  simp [stepThrough, hdir, hname]

theorem stepThrough_up (hdir : tree.isDir place = true) (hname : name = ['.', '.']) :
    tree.stepThrough create links follow place (name :: rest) =
      tree.stepThrough create links follow place.dropLast rest := by
  simp [stepThrough, hdir, hname]

theorem stepThrough_missing (hdir : tree.isDir place = true)
    (hname : name ≠ [] ∧ name ≠ ['.'] ∧ name ≠ ['.', '.'])
    (hnode : tree.node (place ++ [name]) = none) :
    tree.stepThrough create links follow place (name :: rest) =
      if create && rest.isEmpty then .ok (place ++ [name], links) else .error .notFound := by
  simp [stepThrough, hdir, hname, hnode]

theorem stepThrough_link {target : List Char} (hdir : tree.isDir place = true)
    (hname : name ≠ [] ∧ name ≠ ['.'] ∧ name ≠ ['.', '.'])
    (hnode : tree.node (place ++ [name]) = some (.link target)) :
    tree.stepThrough create links follow place (name :: rest) = follow place target rest := by
  simp [stepThrough, hdir, hname, hnode]

theorem stepThrough_enter (hdir : tree.isDir place = true)
    (hname : name ≠ [] ∧ name ≠ ['.'] ∧ name ≠ ['.', '.'])
    (hnode : tree.Settled (place ++ [name])) :
    tree.stepThrough create links follow place (name :: rest) =
      tree.stepThrough create links follow (place ++ [name]) rest := by
  obtain ⟨node, hsome⟩ := Option.ne_none_iff_exists'.mp hnode.1
  cases node with
  | file content => simp [stepThrough, hdir, hname, hsome]
  | dir => simp [stepThrough, hdir, hname, hsome]
  | link target => simp [Settled, isLink, hsome] at hnode

end StepThrough

/-- A lookup on from a place where it can end is one on from the top. -/
theorem stepThrough_append (create : Bool) (links : Nat)
    (follow : Place → List Char → List Name → Except FileError (Place × Nat))
    (names place : Place) (rest : List Name) (h : tree.Settled (place ++ names)) :
    tree.stepThrough create links follow place (names ++ rest) =
      tree.stepThrough create links follow (place ++ names) rest := by
  induction names generalizing place with
  | nil => simp
  | cons name names ih =>
      have hproper := proper_of_node h.1 name (by simp)
      have hdir : tree.isDir place = true :=
        isDir_iff.mpr (node_above (name :: names) place (by simp) h.1)
      rw [List.append_cons] at h
      have hrest := ih (place ++ [name]) h
      rw [← List.append_cons] at hrest
      have hnext : tree.Settled (place ++ [name]) := by
        by_cases hnil : names = []
        · simpa [hnil] using h
        · exact settled_of_isDir (isDir_iff.mpr (node_above names _ hnil h.1))
      rw [List.cons_append, stepThrough_enter hdir hproper.moves hnext, hrest]

theorem seek_append_settled (create : Bool) (links : Nat) (names place : Place)
    (rest : List Name) (h : tree.Settled (place ++ names)) :
    tree.seek create links place (names ++ rest) = tree.seek create links (place ++ names) rest := by
  cases links with
  | zero => exact stepThrough_append create 0 _ names place rest h
  | succ links => exact stepThrough_append create (links + 1) _ names place rest h

theorem seek_nil (create : Bool) (links : Nat) (place : Place) :
    tree.seek create links place [] = .ok (place, links) := by
  cases links <;> rfl

/-- An entry that is not a link is found at its place. -/
theorem seek_settled (create : Bool) (links : Nat) (names place : Place)
    (h : tree.Settled (place ++ names)) :
    tree.seek create links place names = .ok (place ++ names, links) := by
  have hseek := seek_append_settled create links names place [] h
  rwa [List.append_nil, seek_nil] at hseek

theorem lookup_of_settled (links : Nat) (names place : Place) (h : tree.Settled (place ++ names)) :
    tree.lookup links place names = .ok (place ++ names, links) :=
  seek_settled false links names place h

/-- No link stands on the way to a place, nor at it. -/
def Plain (tree : FileTree) (place : Place) : Prop :=
  ∀ front, front <+: place → tree.isLink front = false

theorem Plain.of_prefix {front place : Place} (h : tree.Plain place) (hfront : front <+: place) :
    tree.Plain front :=
  fun _ hother => h _ (hother.trans hfront)

/-- Where there is no link on the way, what is missing is not found elsewhere. -/
theorem stepThrough_plain (links : Nat)
    (follow : Place → List Char → List Name → Except FileError (Place × Nat))
    (names place : Place) (hproper : ∀ name ∈ names, ProperName name)
    (hplain : tree.Plain (place ++ names)) (hnode : tree.node place ≠ none)
    (hnone : tree.node (place ++ names) = none) :
    ∃ error, tree.stepThrough false links follow place names = .error error := by
  induction names generalizing place with
  | nil =>
      rw [List.append_nil] at hnone
      exact absurd hnone hnode
  | cons name names ih =>
      have hname := hproper name (by simp)
      cases tree.step place name with
      | notDir hdir => exact ⟨_, stepThrough_notDir hdir⟩
      | here hdir hhere => exact absurd hhere (by simp [hname.nonempty, hname.notHere])
      | up hdir hup => exact absurd hup hname.notUp
      | missing hdir hmoves hmissing =>
          exact ⟨.notFound, by rw [stepThrough_missing hdir hmoves hmissing]; rfl⟩
      | link target hdir hmoves hlink =>
          have hfree := hplain (place ++ [name]) ⟨names, by simp⟩
          simp [isLink, hlink] at hfree
      | enter hdir hmoves hsettled =>
          rw [stepThrough_enter hdir hmoves hsettled]
          rw [List.append_cons] at hplain hnone
          exact ih (place ++ [name]) (fun other h => hproper other (by simp [h])) hplain
            hsettled.1 hnone

theorem lookup_missing (links : Nat) (names : Place) (hproper : ∀ name ∈ names, ProperName name)
    (hplain : tree.Plain names) (hnone : tree.node names = none) :
    ∃ error, tree.lookup links [] names = .error error := by
  cases links with
  | zero => exact stepThrough_plain 0 _ names [] hproper hplain (by simp) hnone
  | succ links => exact stepThrough_plain (links + 1) _ names [] hproper hplain (by simp) hnone

/-- A walk through a part of the tree without links meets all of that part. -/
theorem mem_descend {entry : Entry} (fuel links : Nat) (place : Place) (route : List Name)
    (hfree : ∀ back, tree.isLink (place ++ back) = false) :
    entry ∈ tree.descend fuel links place route ↔
      ∃ back, back ≠ [] ∧ back.length ≤ fuel ∧ tree.node (place ++ back) ≠ none ∧
        entry = ⟨route ++ back, some (place ++ back)⟩ := by
  induction fuel generalizing place route with
  | zero =>
      simp only [descend, List.not_mem_nil, false_iff]
      rintro ⟨back, hback, hlength, -⟩
      exact hback (List.length_eq_zero_iff.mp (Nat.le_zero.mp hlength))
  | succ fuel ih =>
      have hbelow (name : Name) (back : Place) :
          tree.isLink (place ++ [name] ++ back) = false := by
        rw [← List.append_cons]
        exact hfree (name :: back)
      simp only [descend, List.mem_flatMap]
      constructor
      · rintro ⟨name, hname, hentry⟩
        have hnode := mem_childNames.mp hname
        rw [lookup_of_settled links [name] place ⟨hnode, hfree [name]⟩] at hentry
        rcases List.mem_cons.mp hentry with rfl | hentry
        · exact ⟨[name], by simp, by simp, hnode, rfl⟩
        · split_ifs at hentry with hdir
          · obtain ⟨back, hback, hlength, hsome, rfl⟩ :=
              (ih (place ++ [name]) (route ++ [name]) (hbelow name)).mp hentry
            rw [← List.append_cons] at hsome
            exact ⟨name :: back, by simp, by simpa using hlength, hsome, by simp⟩
          · simp at hentry
      · rintro ⟨back, hback, hlength, hnode, rfl⟩
        cases back with
        | nil => exact absurd rfl hback
        | cons name back =>
            rw [List.append_cons] at hnode
            have hname : tree.node (place ++ [name]) ≠ none := by
              by_cases hnil : back = []
              · simpa [hnil] using hnode
              · simp [node_above back _ hnil hnode]
            refine ⟨name, mem_childNames.mpr hname, ?_⟩
            rw [lookup_of_settled links [name] place ⟨hname, hfree [name]⟩]
            by_cases hnil : back = []
            · subst hnil
              exact List.mem_cons_self
            · refine List.mem_cons_of_mem _ ?_
              rw [if_pos (isDir_iff.mpr (node_above back _ hnil hnode))]
              refine (ih (place ++ [name]) (route ++ [name]) (hbelow name)).mpr
                ⟨back, hnil, by simpa using hlength, hnode, by simp⟩

/-- What a walk does with one entry of a directory. -/
def visit (tree : FileTree) (fuel links : Nat) (place : Place) (route : List Name) (name : Name) :
    List Entry :=
  match tree.lookup links place [name] with
  | .error _ => [⟨route ++ [name], none⟩]
  | .ok (target, left) =>
      ⟨route ++ [name], some target⟩ ::
        if tree.isDir target then tree.descend fuel left target (route ++ [name]) else []

theorem descend_succ (fuel links : Nat) (place : Place) (route : List Name) :
    tree.descend (fuel + 1) links place route =
      (tree.childNames place).flatMap (tree.visit fuel links place route) := rfl

theorem route_of_visit {entry : Entry} {fuel links : Nat} {place : Place} {route : List Name}
    {name : Name}
    (hbelow : ∀ other left target, other ∈ tree.descend fuel left target (route ++ [name]) →
      ∃ next back, other.route = route ++ [name] ++ next :: back)
    (h : entry ∈ tree.visit fuel links place route name) :
    ∃ back, entry.route = route ++ name :: back := by
  unfold visit at h
  cases hlookup : tree.lookup links place [name] with
  | error error =>
      rw [hlookup] at h
      obtain rfl := List.mem_singleton.mp h
      exact ⟨[], rfl⟩
  | ok found =>
      rw [hlookup] at h
      rcases List.mem_cons.mp h with rfl | hentry
      · exact ⟨[], rfl⟩
      · split_ifs at hentry with hdir
        · obtain ⟨next, back, hroute⟩ := hbelow _ _ _ hentry
          exact ⟨next :: back, by rw [hroute, ← List.append_cons]⟩
        · simp at hentry

theorem route_of_descend {entry : Entry} (fuel links : Nat) (place : Place) (route : List Name)
    (h : entry ∈ tree.descend fuel links place route) :
    ∃ name back, entry.route = route ++ name :: back := by
  induction fuel generalizing entry links place route with
  | zero => simp [descend] at h
  | succ fuel ih =>
      rw [descend_succ, List.mem_flatMap] at h
      obtain ⟨name, -, hvisit⟩ := h
      exact ⟨name, route_of_visit (fun other left target => ih left target _) hvisit⟩

/-- Two entries of a walk come by different names. -/
theorem nodup_descend (fuel links : Nat) (place : Place) (route : List Name) :
    ((tree.descend fuel links place route).map Entry.route).Nodup := by
  induction fuel generalizing links place route with
  | zero => simp [descend]
  | succ fuel ih =>
      rw [descend_succ, List.map_flatMap, List.nodup_flatMap]
      constructor
      · intro name _
        unfold visit
        cases hlookup : tree.lookup links place [name] with
        | error error => simp
        | ok found =>
            rw [List.map_cons, List.nodup_cons]
            split_ifs with hdir
            · refine ⟨?_, ih _ _ _⟩
              rintro hmem
              obtain ⟨entry, hentry, hroute⟩ := List.mem_map.mp hmem
              obtain ⟨next, back, hlonger⟩ := route_of_descend _ _ _ _ hentry
              simp [hlonger] at hroute
            · simp
      · refine (List.nodup_dedup _).imp ?_
        intro first second hne route' hfirst hsecond
        obtain ⟨entry, hentry, rfl⟩ := List.mem_map.mp hfirst
        obtain ⟨other, hother, hroute⟩ := List.mem_map.mp hsecond
        obtain ⟨back, hback⟩ := route_of_visit (fun _ _ _ => route_of_descend _ _ _ _) hentry
        obtain ⟨back', hback'⟩ := route_of_visit (fun _ _ _ => route_of_descend _ _ _ _) hother
        rw [hback, hback', List.append_cancel_left_eq, List.cons.injEq] at hroute
        exact hne hroute.1.symm

theorem mem_walk {entry : Entry} (links : Nat) (place : Place)
    (hfree : ∀ back, tree.isLink (place ++ back) = false) :
    entry ∈ tree.walk links place ↔
      ∃ back, back ≠ [] ∧ tree.node (place ++ back) ≠ none ∧
        entry = ⟨back, some (place ++ back)⟩ := by
  rw [walk, mem_descend _ _ place [] hfree]
  constructor
  · rintro ⟨back, hback, -, hnode, hentry⟩
    exact ⟨back, hback, hnode, hentry⟩
  · rintro ⟨back, hback, hnode, hentry⟩
    refine ⟨back, hback, ?_, hnode, hentry⟩
    have hdepth := length_le_depth hnode
    rw [List.length_append] at hdepth
    have hfuel : tree.depth + 1 ≤ (links + 1) * (tree.depth + 1) :=
      Nat.le_mul_of_pos_left _ (Nat.succ_pos links)
    omega

theorem stepThrough_settled (links : Nat)
    (follow : Place → List Char → List Name → Except FileError (Place × Nat))
    (hfollow : ∀ place target rest found left, tree.Settled place →
      follow place target rest = .ok (found, left) → tree.Settled found)
    (names place found : Place) (left : Nat) (hplace : tree.Settled place)
    (h : tree.stepThrough false links follow place names = .ok (found, left)) :
    tree.Settled found := by
  induction names generalizing place with
  | nil =>
      simp only [stepThrough, Except.ok.injEq, Prod.mk.injEq] at h
      rw [← h.1]
      exact hplace
  | cons name names ih =>
      cases tree.step place name with
      | notDir hdir => simp [stepThrough_notDir hdir] at h
      | here hdir hhere =>
          rw [stepThrough_here hdir hhere] at h
          exact ih place hplace h
      | up hdir hup =>
          rw [stepThrough_up hdir hup] at h
          exact ih _ (settled_dropLast hplace) h
      | missing hdir hmoves hmissing => simp [stepThrough_missing hdir hmoves hmissing] at h
      | link target hdir hmoves hlink =>
          rw [stepThrough_link hdir hmoves hlink] at h
          exact hfollow _ _ _ _ _ hplace h
      | enter hdir hmoves hsettled =>
          rw [stepThrough_enter hdir hmoves hsettled] at h
          exact ih _ hsettled h

/-- A lookup ends at an entry that is not a link. -/
theorem lookup_settled (links : Nat) (names place found : Place) (left : Nat)
    (hplace : tree.Settled place) (h : tree.lookup links place names = .ok (found, left)) :
    tree.Settled found := by
  induction links generalizing names place found left with
  | zero =>
      refine stepThrough_settled 0 _ ?_ names place found left hplace h
      intro place target rest found left _ hfalse
      simp at hfalse
  | succ links ih =>
      refine stepThrough_settled (links + 1) _ ?_ names place found left hplace h
      intro place target rest found left hplace hfound
      refine ih _ _ found left ?_ hfound
      split_ifs
      · exact settled_nil
      · exact hplace

end FileTree

end VvAgent.Lib
