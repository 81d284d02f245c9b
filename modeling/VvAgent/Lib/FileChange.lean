import VvAgent.Lib.FileTree

/-!
Lookups cut in two, and with more links allowed, or in a tree with more entries: what they
find stays the same. The operations that change a tree: an entry is put at a place, a directory
or all directories of a path are made, a file is written where a path leads.
-/

namespace VvAgent.Lib

namespace FileTree

variable {tree : FileTree}

theorem stepThrough_append_bind {create : Bool} {links : Nat} {back : List Name}
    {follow followFront : Place → List Char → List Name → Except FileError (Place × Nat)}
    (hback : create = true → back ≠ [])
    (hend : ∀ place, tree.stepThrough create links follow place back =
      tree.seek create links place back)
    (hfollow : ∀ place target rest, follow place target (rest ++ back) =
      followFront place target rest >>= fun found => tree.seek create found.2 found.1 back)
    (front : List Name) (place : Place) :
    tree.stepThrough create links follow place (front ++ back) =
      tree.stepThrough false links followFront place front >>= fun found =>
        tree.seek create found.2 found.1 back := by
  induction front generalizing place with
  | nil => exact hend place
  | cons name front ih =>
      rw [List.cons_append]
      cases tree.step place name with
      | notDir hdir =>
          rw [stepThrough_notDir hdir, stepThrough_notDir hdir]
          rfl
      | here hdir hhere =>
          rw [stepThrough_here hdir hhere, stepThrough_here hdir hhere]
          exact ih place
      | up hdir hup =>
          rw [stepThrough_up hdir hup, stepThrough_up hdir hup]
          exact ih place.dropLast
      | missing hdir hmoves hmissing =>
          rw [stepThrough_missing hdir hmoves hmissing, stepThrough_missing hdir hmoves hmissing]
          cases create with
          | false => rfl
          | true =>
              have hmore : (front ++ back).isEmpty = false := by simp [hback rfl]
              rw [hmore]
              rfl
      | link target hdir hmoves hlink =>
          rw [stepThrough_link hdir hmoves hlink, stepThrough_link hdir hmoves hlink]
          exact hfollow place target front
      | enter hdir hmoves hsettled =>
          rw [stepThrough_enter hdir hmoves hsettled, stepThrough_enter hdir hmoves hsettled]
          exact ih (place ++ [name])

/-- A lookup of a path is a lookup of its front and, from there, of the rest. -/
theorem seek_append (create : Bool) (links : Nat) (front back : List Name) (place : Place)
    (hback : create = true → back ≠ []) :
    tree.seek create links place (front ++ back) =
      tree.lookup links place front >>= fun found => tree.seek create found.2 found.1 back := by
  induction links generalizing front place with
  | zero =>
      exact stepThrough_append_bind hback (fun _ => rfl) (fun _ _ _ => rfl) front place
  | succ links ih =>
      refine stepThrough_append_bind hback (fun _ => rfl) ?_ front place
      intro place target rest
      rw [← List.append_assoc]
      exact ih _ _

theorem stepThrough_more {create : Bool} {links more : Nat}
    {follow followMore : Place → List Char → List Name → Except FileError (Place × Nat)}
    (hfollow : ∀ place target rest found left, follow place target rest = .ok (found, left) →
      followMore place target rest = .ok (found, left + more))
    (names place found : Place) (left : Nat)
    (h : tree.stepThrough create links follow place names = .ok (found, left)) :
    tree.stepThrough create (links + more) followMore place names = .ok (found, left + more) := by
  induction names generalizing place with
  | nil =>
      simp only [stepThrough, Except.ok.injEq, Prod.mk.injEq] at h ⊢
      exact ⟨h.1, by rw [h.2]⟩
  | cons name names ih =>
      cases tree.step place name with
      | notDir hdir => simp [stepThrough_notDir hdir] at h
      | here hdir hhere =>
          rw [stepThrough_here hdir hhere] at h ⊢
          exact ih place h
      | up hdir hup =>
          rw [stepThrough_up hdir hup] at h ⊢
          exact ih _ h
      | missing hdir hmoves hmissing =>
          rw [stepThrough_missing hdir hmoves hmissing] at h ⊢
          split_ifs at h ⊢ with hlast
          simp only [Except.ok.injEq, Prod.mk.injEq] at h ⊢
          exact ⟨h.1, by rw [h.2]⟩
      | link target hdir hmoves hlink =>
          rw [stepThrough_link hdir hmoves hlink] at h ⊢
          exact hfollow _ _ _ _ _ h
      | enter hdir hmoves hsettled =>
          rw [stepThrough_enter hdir hmoves hsettled] at h ⊢
          exact ih _ h

theorem seek_succ (create : Bool) (links : Nat) (names place found : Place) (left : Nat)
    (h : tree.seek create links place names = .ok (found, left)) :
    tree.seek create (links + 1) place names = .ok (found, left + 1) := by
  induction links generalizing names place found left with
  | zero =>
      refine stepThrough_more ?_ names place found left h
      intro place target rest found left herror
      simp at herror
  | succ links ih =>
      refine stepThrough_more ?_ names place found left h
      intro place target rest found left hfound
      exact ih _ _ found left hfound

/-- With more links allowed, a lookup finds what it found. -/
theorem seek_more (create : Bool) (links more : Nat) (names place found : Place) (left : Nat)
    (h : tree.seek create links place names = .ok (found, left)) :
    tree.seek create (links + more) place names = .ok (found, left + more) := by
  induction more with
  | zero => exact h
  | succ more ih => exact seek_succ create (links + more) names place found (left + more) ih

theorem stepThrough_left {create : Bool} {links : Nat}
    {follow : Place → List Char → List Name → Except FileError (Place × Nat)}
    (hfollow : ∀ place target rest found left, follow place target rest = .ok (found, left) →
      left ≤ links)
    (names place found : Place) (left : Nat)
    (h : tree.stepThrough create links follow place names = .ok (found, left)) : left ≤ links := by
  induction names generalizing place with
  | nil =>
      simp only [stepThrough, Except.ok.injEq, Prod.mk.injEq] at h
      exact h.2.symm.le
  | cons name names ih =>
      cases tree.step place name with
      | notDir hdir => simp [stepThrough_notDir hdir] at h
      | here hdir hhere =>
          rw [stepThrough_here hdir hhere] at h
          exact ih place h
      | up hdir hup =>
          rw [stepThrough_up hdir hup] at h
          exact ih _ h
      | missing hdir hmoves hmissing =>
          rw [stepThrough_missing hdir hmoves hmissing] at h
          split_ifs at h with hlast
          simp only [Except.ok.injEq, Prod.mk.injEq] at h
          exact h.2.symm.le
      | link target hdir hmoves hlink =>
          rw [stepThrough_link hdir hmoves hlink] at h
          exact hfollow _ _ _ _ _ h
      | enter hdir hmoves hsettled =>
          rw [stepThrough_enter hdir hmoves hsettled] at h
          exact ih _ h

theorem seek_left (create : Bool) (links : Nat) (names place found : Place) (left : Nat)
    (h : tree.seek create links place names = .ok (found, left)) : left ≤ links := by
  induction links generalizing names place found left with
  | zero =>
      refine stepThrough_left ?_ names place found left h
      intro place target rest found left herror
      simp at herror
  | succ links ih =>
      refine stepThrough_left ?_ names place found left h
      intro place target rest found left hfound
      exact (ih _ _ found left hfound).trans (Nat.le_succ links)

theorem stepThrough_existing {links : Nat}
    {follow followExisting : Place → List Char → List Name → Except FileError (Place × Nat)}
    {found : Place} {left : Nat} (hfound : tree.node found ≠ none)
    (hfollow : ∀ place target rest, follow place target rest = .ok (found, left) →
      followExisting place target rest = .ok (found, left))
    (names place : Place)
    (h : tree.stepThrough true links follow place names = .ok (found, left)) :
    tree.stepThrough false links followExisting place names = .ok (found, left) := by
  induction names generalizing place with
  | nil => exact h
  | cons name names ih =>
      cases tree.step place name with
      | notDir hdir => simp [stepThrough_notDir hdir] at h
      | here hdir hhere =>
          rw [stepThrough_here hdir hhere] at h ⊢
          exact ih place h
      | up hdir hup =>
          rw [stepThrough_up hdir hup] at h ⊢
          exact ih _ h
      | missing hdir hmoves hmissing =>
          rw [stepThrough_missing hdir hmoves hmissing] at h
          split_ifs at h
          rw [Except.ok.injEq, Prod.mk.injEq] at h
          rw [← h.1] at hfound
          exact absurd hmissing hfound
      | link target hdir hmoves hlink =>
          rw [stepThrough_link hdir hmoves hlink] at h ⊢
          exact hfollow _ _ _ h
      | enter hdir hmoves hsettled =>
          rw [stepThrough_enter hdir hmoves hsettled] at h ⊢
          exact ih _ h

/-- Where the last entry is there, it makes no difference that it might be created. -/
theorem seek_existing {found : Place} {left : Nat} (hfound : tree.node found ≠ none) (links : Nat)
    (names place : Place) (h : tree.seek true links place names = .ok (found, left)) :
    tree.lookup links place names = .ok (found, left) := by
  induction links generalizing names place with
  | zero =>
      refine stepThrough_existing hfound ?_ names place h
      intro place target rest herror
      simp at herror
  | succ links ih =>
      refine stepThrough_existing hfound ?_ names place h
      intro place target rest hinner
      exact ih _ _ hinner

/-- One tree has the entries of another, and maybe more. -/
def Grown (before after : FileTree) : Prop :=
  ∀ place, before.node place ≠ none → after.node place = before.node place

theorem Grown.refl (tree : FileTree) : Grown tree tree := fun _ _ => rfl

theorem Grown.trans {first second third : FileTree} (h : Grown first second)
    (hnext : Grown second third) : Grown first third := by
  intro place hplace
  have hsecond := h place hplace
  rw [← hsecond]
  exact hnext place (by rwa [hsecond])

theorem Grown.isDir {before after : FileTree} (h : Grown before after) {place : Place}
    (hdir : before.isDir place = true) : after.isDir place = true := by
  have hnode := isDir_iff.mp hdir
  rw [isDir_iff, h place (by simp [hnode]), hnode]

theorem Grown.settled {before after : FileTree} (h : Grown before after) {place : Place}
    (hsettled : before.Settled place) : after.Settled place := by
  have hnode := h place hsettled.1
  exact ⟨by rw [hnode]; exact hsettled.1, by simpa [isLink, hnode] using hsettled.2⟩

theorem stepThrough_grown {before after : FileTree} (h : Grown before after) {links : Nat}
    {follow followAfter : Place → List Char → List Name → Except FileError (Place × Nat)}
    (hfollow : ∀ place target rest found, follow place target rest = .ok found →
      followAfter place target rest = .ok found)
    (names place : Place) (found : Place × Nat)
    (hfound : before.stepThrough false links follow place names = .ok found) :
    after.stepThrough false links followAfter place names = .ok found := by
  induction names generalizing place with
  | nil => exact hfound
  | cons name names ih =>
      cases before.step place name with
      | notDir hdir => simp [stepThrough_notDir hdir] at hfound
      | here hdir hhere =>
          rw [stepThrough_here hdir hhere] at hfound
          rw [stepThrough_here (h.isDir hdir) hhere]
          exact ih place hfound
      | up hdir hup =>
          rw [stepThrough_up hdir hup] at hfound
          rw [stepThrough_up (h.isDir hdir) hup]
          exact ih _ hfound
      | missing hdir hmoves hmissing => simp [stepThrough_missing hdir hmoves hmissing] at hfound
      | link target hdir hmoves hlink =>
          rw [stepThrough_link hdir hmoves hlink] at hfound
          rw [stepThrough_link (h.isDir hdir) hmoves (by rw [h _ (by simp [hlink]), hlink])]
          exact hfollow _ _ _ _ hfound
      | enter hdir hmoves hsettled =>
          rw [stepThrough_enter hdir hmoves hsettled] at hfound
          rw [stepThrough_enter (h.isDir hdir) hmoves (h.settled hsettled)]
          exact ih _ hfound

/-- New entries do not change where a lookup leads that led somewhere. -/
theorem lookup_grown {before after : FileTree} (h : Grown before after) (links : Nat)
    (names place : Place) (found : Place × Nat)
    (hfound : before.lookup links place names = .ok found) :
    after.lookup links place names = .ok found := by
  induction links generalizing names place found with
  | zero => exact stepThrough_grown h (fun _ _ _ _ herror => herror) names place found hfound
  | succ links ih =>
      exact stepThrough_grown h (fun _ _ _ found hinner => ih _ _ found hinner) names place found
        hfound

/-- A place where an entry can be put. -/
structure Fits (tree : FileTree) (place : Place) : Prop where
  nonempty : place ≠ []
  proper : ∀ name ∈ place, ProperName name
  parent : tree.isDir place.dropLast = true
  notDir : tree.isDir place = false

theorem fits_iff (tree : FileTree) (place : Place) :
    tree.Fits place ↔ place ≠ [] ∧ (∀ name ∈ place, ProperName name) ∧
      tree.isDir place.dropLast = true ∧ tree.isDir place = false :=
  ⟨fun h => ⟨h.1, h.2, h.3, h.4⟩, fun h => ⟨h.1, h.2.1, h.2.2.1, h.2.2.2⟩⟩

instance (tree : FileTree) (place : Place) : Decidable (tree.Fits place) :=
  decidable_of_iff _ (tree.fits_iff place).symm

theorem nodeAt_cons (nodes : List (Place × Node)) (place other : Place) (node : Node)
    (hplace : place ≠ []) :
    nodeAt ((place, node) :: nodes) other =
      if other = place then some node else nodeAt nodes other := by
  unfold nodeAt
  by_cases hnil : other = []
  · subst hnil
    simp [hplace.symm]
  · by_cases heq : other = place
    · simp [heq, hplace]
    · have hne : (other == place) = false := by simpa using heq
      simp [hnil, heq, List.lookup_cons, hne]

/-- The tree with an entry put at a place where nothing was, or a file or a link. -/
def put (tree : FileTree) (place : Place) (node : Node) (h : tree.Fits place) : FileTree where
  nodes := (place, node) :: tree.nodes
  proper := by
    intro entry hentry
    rcases List.mem_cons.mp hentry with rfl | hmem
    · exact h.proper
    · exact tree.proper entry hmem
  closed := by
    intro parent name hsome
    have hchild : parent ≠ place := by
      rintro rfl
      have hlonger : parent ++ [name] ≠ parent := by simp
      rw [nodeAt_cons _ _ _ _ h.nonempty, if_neg hlonger] at hsome
      have hdir := isDir_iff.mpr (tree.closed parent name hsome)
      rw [h.notDir] at hdir
      exact absurd hdir (by decide)
    rw [nodeAt_cons _ _ _ _ h.nonempty] at hsome ⊢
    rw [if_neg hchild]
    by_cases heq : parent ++ [name] = place
    · have hparent : place.dropLast = parent := by rw [← heq, List.dropLast_concat]
      rw [← hparent]
      exact isDir_iff.mp h.parent
    · rw [if_neg heq] at hsome
      exact tree.closed parent name hsome

theorem node_put (tree : FileTree) (place other : Place) (node : Node) (h : tree.Fits place) :
    (tree.put place node h).node other = if other = place then some node else tree.node other :=
  nodeAt_cons tree.nodes place other node h.nonempty

/-- The tree with nothing in it. -/
def bare : FileTree where
  nodes := []
  proper := by simp
  closed := by
    intro place name h
    simp [nodeAt] at h

theorem put_grown (tree : FileTree) (place : Place) (node : Node) (h : tree.Fits place)
    (hfree : tree.node place = none) : Grown tree (tree.put place node h) := by
  intro other hother
  rw [node_put, if_neg]
  rintro rfl
  exact hother hfree

/-- A directory is made at the end of a path. -/
def makeDir (tree : FileTree) (above : List Name) (name : Name) : Except FileError FileTree :=
  match tree.lookup maxLinks [] above with
  | .error error => .error error
  | .ok (parent, _) =>
      if !tree.isDir parent then .error .notADirectory
      else if (tree.node (parent ++ [name])).isSome then .error .alreadyExists
      else if h : tree.Fits (parent ++ [name]) then .ok (tree.put (parent ++ [name]) .dir h)
      else .error .invalidName

def leadsToDir (tree : FileTree) (names : List Name) : Bool :=
  match tree.lookup maxLinks [] names with
  | .ok (place, _) => tree.isDir place
  | .error _ => false

/-- An attempt that failed counts if the directory is there. -/
def madeOrThere (tree : FileTree) (names : List Name) :
    Except FileError FileTree → Except FileError FileTree
  | .ok made => .ok made
  | .error error => if tree.leadsToDir names then .ok tree else .error error

/-- The directories of a path are made, those that are missing, from a path whose names are
given from its end. -/
def createDirs (tree : FileTree) : List Name → Except FileError FileTree
  | [] => .ok tree
  | name :: above =>
      let names := above.reverse ++ [name]
      match tree.makeDir above.reverse name with
      | .error .notFound => do
          let parent ← createDirs tree above
          parent.madeOrThere names (parent.makeDir above.reverse name)
      | made => tree.madeOrThere names made

def createDirAll (tree : FileTree) (names : List Name) : Except FileError FileTree :=
  tree.createDirs names.reverse

def content (tree : FileTree) (place : Place) : Option ByteArray :=
  match tree.node place with
  | some (.file content) => some content
  | _ => none

/-- A file is written where a path leads, over what it held. -/
def writeFile (tree : FileTree) (names : List Name) (update : ByteArray → ByteArray) :
    Except FileError FileTree :=
  match tree.seek true maxLinks [] names with
  | .error error => .error error
  | .ok (place, _) =>
      if tree.isDir place then .error .isADirectory
      else if h : tree.Fits place then
        .ok (tree.put place (.file (update ((tree.content place).getD ByteArray.empty))) h)
      else .error .invalidName

/-- The entry that a path ends with, not followed if it is a link. -/
def entryAt (tree : FileTree) (names : List Name) : Except FileError Node :=
  match names.getLast? with
  | none => .ok .dir
  | some name =>
      match tree.lookup maxLinks [] names.dropLast with
      | .error error => .error error
      | .ok (parent, _) =>
          if !tree.isDir parent then .error .notADirectory
          else
            match tree.node (parent ++ [name]) with
            | none => .error .notFound
            | some node => .ok node

/-- No link below a place leads to an entry that is not below it. -/
def Stays (tree : FileTree) (root : Place) : Prop :=
  ∀ place, root <+: place → tree.isLink place = true → ∀ found left,
    tree.lookup maxLinks [] place = .ok (found, left) → root <+: found

theorem seek_from_settled (create : Bool) (links : Nat) (place : Place) (names : List Name)
    (h : tree.Settled place) :
    tree.seek create links [] (place ++ names) = tree.seek create links place names :=
  seek_append_settled create links place [] names h

theorem isLink_iff {place : Place} :
    tree.isLink place = true ↔ ∃ target, tree.node place = some (.link target) := by
  unfold isLink
  cases tree.node place with
  | none => simp
  | some node => cases node <;> simp

theorem seek_eq_stepThrough (tree : FileTree) (create : Bool) (links : Nat) :
    ∃ follow, ∀ place names,
      tree.seek create links place names = tree.stepThrough create links follow place names := by
  cases links with
  | zero => exact ⟨_, fun _ _ => rfl⟩
  | succ links => exact ⟨_, fun _ _ => rfl⟩

/-- A name other than a step up leads from a place to itself, to an entry there that is not a
link, or where a link leads; or to nothing, which a lookup accepts if it is to create it. -/
theorem seek_single {create : Bool} {links left : Nat} {place found : Place} {name : Name}
    (hname : name ≠ ['.', '.'])
    (h : tree.seek create links place [name] = .ok (found, left)) :
    found = place ∨ found = place ++ [name] ∨ tree.isLink (place ++ [name]) = true := by
  obtain ⟨follow, hfollow⟩ := tree.seek_eq_stepThrough create links
  cases tree.step place name with
  | notDir hdir => simp [hfollow, stepThrough_notDir hdir] at h
  | here hdir hhere =>
      rw [hfollow, stepThrough_here hdir hhere, stepThrough, Except.ok.injEq, Prod.mk.injEq] at h
      exact Or.inl h.1.symm
  | up hdir hup => exact absurd hup hname
  | missing hdir hmoves hmissing =>
      rw [hfollow, stepThrough_missing hdir hmoves hmissing] at h
      split_ifs at h
      rw [Except.ok.injEq, Prod.mk.injEq] at h
      exact Or.inr (Or.inl h.1.symm)
  | link target hdir hmoves hlink => exact Or.inr (Or.inr (isLink_iff.mpr ⟨target, hlink⟩))
  | enter hdir hmoves hsettled =>
      rw [hfollow, stepThrough_enter hdir hmoves hsettled, stepThrough, Except.ok.injEq,
        Prod.mk.injEq] at h
      exact Or.inr (Or.inl h.1.symm)

/-- What a path leads to, or could, is the entry of a directory that the path above leads to. -/
theorem parent_of_seek {create : Bool} {links : Nat} {above : List Name} {name : Name}
    {place : Place} {found : Place × Nat}
    (h : tree.seek create links place (above ++ [name]) = .ok found) :
    ∃ parent left, tree.lookup links place above = .ok (parent, left) ∧
      tree.isDir parent = true := by
  rw [seek_append create links above [name] place (by simp)] at h
  cases habove : tree.lookup links place above with
  | error error =>
      rw [habove] at h
      cases h
  | ok parent =>
      rw [habove] at h
      refine ⟨parent.1, parent.2, rfl, ?_⟩
      obtain ⟨follow, hfollow⟩ := tree.seek_eq_stepThrough create parent.2
      by_contra hdir
      change tree.seek create parent.2 parent.1 [name] = _ at h
      rw [hfollow, stepThrough_notDir (by simpa using hdir)] at h
      cases h

/-- Where no link leads out, no path without a step up does. -/
theorem lookup_stays {root : Place} (hstays : tree.Stays root) (names : List Name)
    (hnames : ∀ name ∈ names, name ≠ ['.', '.']) (links : Nat) (hlinks : links ≤ maxLinks)
    (place found : Place) (left : Nat) (hplace : tree.Settled place) (hinside : root <+: place)
    (h : tree.lookup links place names = .ok (found, left)) : root <+: found := by
  induction names generalizing links place with
  | nil =>
      rw [lookup, seek_nil, Except.ok.injEq, Prod.mk.injEq] at h
      rw [← h.1]
      exact hinside
  | cons name names ih =>
      have hsplit : tree.lookup links place (name :: names) = _ :=
        seek_append false links [name] names place (by simp)
      rw [hsplit] at h
      cases hfirst : tree.lookup links place [name] with
      | error error =>
          rw [hfirst] at h
          cases h
      | ok first =>
          obtain ⟨next, rest⟩ := first
          rw [hfirst] at h
          have hsettled := lookup_settled links [name] place next rest hplace hfirst
          have hrest := (seek_left false links [name] place next rest hfirst).trans hlinks
          refine ih (fun other hother => hnames other (by simp [hother])) rest hrest next hsettled
            ?_ h
          have hbelow : root <+: place ++ [name] := hinside.trans (List.prefix_append _ _)
          rcases seek_single (hnames name (by simp)) hfirst with rfl | rfl | hlink
          · exact hinside
          · exact hbelow
          · obtain ⟨more, hmore⟩ := Nat.exists_eq_add_of_le hlinks
            have hwhole := seek_more false links more [name] place next rest hfirst
            rw [← hmore, ← seek_from_settled false maxLinks place [name] hplace] at hwhole
            exact hstays _ hbelow hlink next (rest + more) hwhole

/-- Two trees differ at most below a place. -/
def SameOutside (root : Place) (before after : FileTree) : Prop :=
  ∀ place, ¬root <+: place → after.node place = before.node place

theorem SameOutside.refl (root : Place) (tree : FileTree) : SameOutside root tree tree :=
  fun _ _ => rfl

theorem SameOutside.trans {root : Place} {first second third : FileTree}
    (h : SameOutside root first second) (hnext : SameOutside root second third) :
    SameOutside root first third :=
  fun place hplace => (hnext place hplace).trans (h place hplace)

theorem put_sameOutside {root place : Place} (hplace : root <+: place) (node : Node)
    (h : tree.Fits place) : SameOutside root tree (tree.put place node h) := by
  intro other hother
  rw [node_put, if_neg]
  rintro rfl
  exact hother hplace

theorem makeDir_eq_ok {made : FileTree} {above : List Name} {name : Name}
    (h : tree.makeDir above name = .ok made) :
    ∃ parent left, ∃ hfits : tree.Fits (parent ++ [name]),
      tree.lookup maxLinks [] above = .ok (parent, left) ∧
      tree.node (parent ++ [name]) = none ∧ made = tree.put (parent ++ [name]) .dir hfits := by
  unfold makeDir at h
  cases hlookup : tree.lookup maxLinks [] above with
  | error error => simp [hlookup] at h
  | ok found =>
      obtain ⟨parent, left⟩ := found
      simp only [hlookup] at h
      split_ifs at h with hdir hsome hfits
      exact ⟨parent, left, hfits, rfl, by simpa using hsome, (Except.ok.inj h).symm⟩

/-- The directories of a path are there, below a place, and nothing else was changed. If any was
made, the last one is empty. -/
structure MadeDirs (root : Place) (before after : FileTree) (names : List Name) : Prop where
  same : SameOutside root before after
  grown : Grown before after
  found : ∃ place left, after.lookup maxLinks [] names = .ok (place, left) ∧
    after.isDir place = true ∧ root <+: place ∧
    (after = before ∨ ∀ name, after.node (place ++ [name]) = none)

theorem makeDir_made {root : Place} {before made : FileTree} {above : List Name} {name : Name}
    (h : MadeDirs root before tree above) (hmade : tree.makeDir above name = .ok made) :
    MadeDirs root before made (above ++ [name]) := by
  obtain ⟨parent, left, hfits, hlookup, hfree, rfl⟩ := makeDir_eq_ok hmade
  obtain ⟨place, rest, hplace, -, hinside, -⟩ := h.found
  rw [hlookup, Except.ok.injEq, Prod.mk.injEq] at hplace
  obtain ⟨rfl, rfl⟩ := hplace
  have hbelow : root <+: parent ++ [name] := hinside.trans (List.prefix_append _ _)
  have hgrown := put_grown tree (parent ++ [name]) .dir hfits hfree
  have hdir : (tree.put (parent ++ [name]) .dir hfits).isDir (parent ++ [name]) = true := by
    rw [isDir_iff, node_put, if_pos rfl]
  refine ⟨h.same.trans (put_sameOutside hbelow .dir hfits), h.grown.trans hgrown,
    parent ++ [name], left, ?_, hdir, hbelow, Or.inr ?_⟩
  · have hfront := lookup_grown hgrown maxLinks above [] _ hlookup
    rw [lookup, seek_append false maxLinks above [name] [] (by simp), hfront]
    exact lookup_of_settled left [name] parent (settled_of_isDir hdir)
  · intro next
    have hlonger : parent ++ [name] ++ [next] ≠ parent ++ [name] := by simp
    rw [node_put, if_neg hlonger]
    by_contra hsome
    rw [closed_node hsome] at hfree
    cases hfree

theorem leadsToDir_iff {names : List Name} :
    tree.leadsToDir names = true ↔
      ∃ place left, tree.lookup maxLinks [] names = .ok (place, left) ∧
        tree.isDir place = true := by
  unfold leadsToDir
  cases tree.lookup maxLinks [] names with
  | error error => simp
  | ok found =>
      obtain ⟨place, left⟩ := found
      simp

/-- Where no link leads out, a directory that a path leads to below the place is below it. -/
theorem MadeDirs.there {root : Place} (hroot : tree.Settled root) (hstays : tree.Stays root)
    {names : List Name} (hnames : ∀ name ∈ names, name ≠ ['.', '.'])
    (h : tree.leadsToDir (root ++ names) = true) : MadeDirs root tree tree (root ++ names) := by
  obtain ⟨place, left, hlookup, hdir⟩ := leadsToDir_iff.mp h
  refine ⟨.refl root tree, .refl tree, place, left, hlookup, hdir, ?_, Or.inl rfl⟩
  rw [lookup, seek_from_settled false maxLinks root names hroot] at hlookup
  exact lookup_stays hstays names hnames maxLinks le_rfl root place left hroot
    (List.prefix_refl _) hlookup

/-- An empty directory leads nowhere. -/
theorem lookup_empty {place : Place} {name : Name} (links : Nat)
    (hname : name ≠ [] ∧ name ≠ ['.'] ∧ name ≠ ['.', '.'])
    (hnone : tree.node (place ++ [name]) = none) :
    ∃ error, tree.lookup links place [name] = .error error := by
  obtain ⟨follow, hfollow⟩ := tree.seek_eq_stepThrough false links
  by_cases hdir : tree.isDir place = true
  · exact ⟨.notFound, by rw [lookup, hfollow, stepThrough_missing hdir hname hnone]; rfl⟩
  · exact ⟨_, by rw [lookup, hfollow, stepThrough_notDir (by simpa using hdir)]⟩

theorem madeOrThere_error {after : FileTree} {names : List Name} {error : FileError}
    (h : tree.madeOrThere names (.error error) = .ok after) :
    after = tree ∧ tree.leadsToDir names = true := by
  unfold madeOrThere at h
  split_ifs at h with hdir
  exact ⟨(Except.ok.inj h).symm, hdir⟩

/-- The parent of a missing directory is there now, and so is the directory. -/
theorem MadeDirs.retry {root : Place} {before after : FileTree} (hroot : before.Settled root)
    (hstays : before.Stays root) {back : List Name} {name : Name}
    (hname : name ≠ [] ∧ name ≠ ['.'] ∧ name ≠ ['.', '.'])
    (hback : ∀ other ∈ back ++ [name], other ≠ ['.', '.'])
    (hparent : MadeDirs root before tree (root ++ back))
    (h : tree.madeOrThere (root ++ back ++ [name]) (tree.makeDir (root ++ back) name) =
      .ok after) :
    MadeDirs root before after (root ++ back ++ [name]) := by
  cases hmake : tree.makeDir (root ++ back) name with
  | ok made =>
      rw [hmake, madeOrThere, Except.ok.injEq] at h
      rw [← h]
      exact makeDir_made hparent hmake
  | error error =>
      rw [hmake] at h
      obtain ⟨rfl, hdir⟩ := madeOrThere_error h
      obtain ⟨place, left, hlookup, -, -, rfl | hempty⟩ := hparent.found
      · rw [List.append_assoc] at hdir ⊢
        exact MadeDirs.there hroot hstays hback hdir
      · obtain ⟨found, rest, hfound, -⟩ := leadsToDir_iff.mp hdir
        rw [lookup, seek_append false maxLinks _ [name] [] (by simp), hlookup] at hfound
        obtain ⟨error, herror⟩ := lookup_empty left hname (hempty name)
        change after.lookup left place [name] = _ at hfound
        rw [herror] at hfound
        cases hfound

/-- What a path leads to is not made again. -/
theorem makeDir_existing {above : List Name} {name : Name} {place : Place} {left : Nat}
    (hname : name ≠ [] ∧ name ≠ ['.'] ∧ name ≠ ['.', '.'])
    (h : tree.lookup maxLinks [] (above ++ [name]) = .ok (place, left)) :
    tree.makeDir above name = .error .alreadyExists := by
  rw [lookup, seek_append false maxLinks above [name] [] (by simp)] at h
  unfold makeDir
  cases hlookup : tree.lookup maxLinks [] above with
  | error error =>
      rw [hlookup] at h
      cases h
  | ok found =>
      obtain ⟨parent, rest⟩ := found
      rw [hlookup] at h
      change tree.seek false rest parent [name] = _ at h
      obtain ⟨follow, hfollow⟩ := tree.seek_eq_stepThrough false rest
      rw [hfollow] at h
      cases tree.step parent name with
      | notDir hdir => simp [stepThrough_notDir hdir] at h
      | here hdir hhere => exact absurd hhere (by simp [hname.1, hname.2.1])
      | up hdir hup => exact absurd hup hname.2.2
      | missing hdir hmoves hmissing => simp [stepThrough_missing hdir hmoves hmissing] at h
      | link target hdir hmoves hlink => simp [hdir, hlink]
      | enter hdir hmoves hsettled =>
          have hsome := Option.isSome_iff_ne_none.mpr hsettled.1
          simp [hdir, hsome]

/-- Where the directories of a path are there, nothing is done; where it leads to something
else, nothing is possible. -/
theorem createDirs_existing {back : List Name} {place : Place} {left : Nat}
    (hback : ∀ name ∈ back, name ≠ [] ∧ name ≠ ['.'] ∧ name ≠ ['.', '.'])
    (h : tree.lookup maxLinks [] back.reverse = .ok (place, left)) :
    tree.createDirs back =
      if tree.isDir place then .ok tree else .error .alreadyExists := by
  cases back with
  | nil =>
      rw [List.reverse_nil, lookup, seek_nil, Except.ok.injEq, Prod.mk.injEq] at h
      rw [← h.1]
      rfl
  | cons name above =>
      rw [List.reverse_cons] at h
      have hmake := makeDir_existing (hback name (by simp)) h
      simp only [createDirs, hmake, madeOrThere, leadsToDir, h]

theorem settled_moves {root : Place} (hroot : tree.Settled root) :
    ∀ name ∈ root.reverse, name ≠ [] ∧ name ≠ ['.'] ∧ name ≠ ['.', '.'] := fun name hname =>
  (proper_of_node hroot.1 name (List.mem_reverse.mp hname)).moves

theorem createDirs_settled {root : Place} (hroot : tree.Settled root) :
    tree.createDirs root.reverse =
      if tree.isDir root then .ok tree else .error .alreadyExists := by
  have hlookup : tree.lookup maxLinks [] root.reverse.reverse = .ok (root, maxLinks) := by
    rw [List.reverse_reverse]
    exact lookup_of_settled maxLinks root [] hroot
  exact createDirs_existing (settled_moves hroot) hlookup

theorem createDirs_made {root : Place} (hroot : tree.Settled root) (hstays : tree.Stays root)
    (back : List Name) (hback : ∀ name ∈ back, name ≠ [] ∧ name ≠ ['.'] ∧ name ≠ ['.', '.'])
    (after : FileTree) (h : tree.createDirs (back ++ root.reverse) = .ok after) :
    MadeDirs root tree after (root ++ back.reverse) := by
  induction back generalizing after with
  | nil =>
      rw [List.nil_append, createDirs_settled hroot] at h
      split_ifs at h with hdir
      rw [← Except.ok.inj h]
      refine MadeDirs.there hroot hstays (by simp) (leadsToDir_iff.mpr ⟨root, maxLinks, ?_, hdir⟩)
      rw [List.reverse_nil, List.append_nil]
      exact lookup_of_settled maxLinks root [] hroot
  | cons name back ih =>
      have hname := hback name (by simp)
      have hrest := ih fun other hother => hback other (by simp [hother])
      have hup : ∀ other ∈ back.reverse ++ [name], other ≠ ['.', '.'] := by
        intro other hother
        rw [← List.reverse_cons, List.mem_reverse] at hother
        exact (hback other hother).2.2
      have hpath : root ++ (name :: back).reverse = root ++ back.reverse ++ [name] := by simp
      have habove : (back ++ root.reverse).reverse = root ++ back.reverse := by simp
      rw [hpath]
      simp only [List.cons_append, createDirs, habove] at h
      cases hmake : tree.makeDir (root ++ back.reverse) name with
      | ok made =>
          simp only [hmake, madeOrThere, Except.ok.injEq] at h
          subst h
          obtain ⟨parent, left, hfits, hlookup, -, -⟩ := makeDir_eq_ok hmake
          have hdir : tree.isDir parent = true := by simpa using hfits.parent
          refine makeDir_made (MadeDirs.there hroot hstays ?_ ?_) hmake
          · exact fun other hother => hup other (List.mem_append_left _ hother)
          · exact leadsToDir_iff.mpr ⟨parent, left, hlookup, hdir⟩
      | error error =>
          rw [hmake] at h
          have hthere (hkept : tree.madeOrThere (root ++ back.reverse ++ [name])
              (.error error) = .ok after) :
              MadeDirs root tree after (root ++ back.reverse ++ [name]) := by
            obtain ⟨rfl, hdir⟩ := madeOrThere_error hkept
            rw [List.append_assoc] at hdir ⊢
            exact MadeDirs.there hroot hstays hup hdir
          cases error with
          | notFound =>
              cases hmid : tree.createDirs (back ++ root.reverse) with
              | error error =>
                  rw [hmid] at h
                  cases h
              | ok mid =>
                  rw [hmid] at h
                  exact MadeDirs.retry hroot hstays hname hup (hrest mid hmid) h
          | notADirectory => exact hthere h
          | tooManyLinks => exact hthere h
          | alreadyExists => exact hthere h
          | isADirectory => exact hthere h
          | invalidName => exact hthere h

theorem writeFile_eq_ok {after : FileTree} {names : List Name} {update : ByteArray → ByteArray}
    (h : tree.writeFile names update = .ok after) :
    ∃ place left, ∃ hfits : tree.Fits place,
      tree.seek true maxLinks [] names = .ok (place, left) ∧
      after = tree.put place
        (.file (update ((tree.content place).getD ByteArray.empty))) hfits := by
  unfold writeFile at h
  cases hseek : tree.seek true maxLinks [] names with
  | error error => simp [hseek] at h
  | ok found =>
      obtain ⟨place, left⟩ := found
      simp only [hseek] at h
      split_ifs at h with hdir hfits
      exact ⟨place, left, hfits, rfl, (Except.ok.inj h).symm⟩

end FileTree

end VvAgent.Lib
