import VvAgent.Workspace.Local

/-!
What the local backend reads and changes lies below its root. A path that exists is followed
through all links before it is compared with the root; of a path that does not, links may
remain in what was resolved, and the operating system follows them afterwards. So the backend
is confined exactly if no link below the root leads out of it.
-/

namespace VvAgent
open Lib Lib.Outcome

/-- A component of a path, other than a step up. -/
structure PathName (name : Name) : Prop where
  moves : name ≠ [] ∧ name ≠ ['.'] ∧ name ≠ ['.', '.']
  noSlash : '/' ∉ name

theorem PathName.of_proper {name : Name} (h : ProperName name) : PathName name :=
  ⟨h.moves, h.noSlash⟩

theorem PathName.of_settled {tree : FileTree} {place : Place} (h : tree.Settled place) :
    ∀ name ∈ place, PathName name := fun name hname =>
  .of_proper (FileTree.proper_of_node h.1 name hname)

theorem canonicalize_eq_ok {tree : FileTree} {pieces : List Name} {place : Place}
    (h : canonicalize tree pieces = .ok place) :
    tree.Settled place ∧ ∃ left, tree.lookup FileTree.maxLinks [] pieces = .ok (place, left) := by
  unfold canonicalize at h
  cases hlookup : tree.lookup FileTree.maxLinks [] pieces with
  | error error =>
      rw [hlookup] at h
      cases h
  | ok found =>
      rw [hlookup, Except.map, Except.ok.injEq] at h
      subst h
      exact ⟨FileTree.lookup_settled _ pieces [] _ _ FileTree.settled_nil hlookup, found.2, rfl⟩

theorem pathName_components {pieces : List Name} (h : ∀ piece ∈ pieces, '/' ∉ piece) :
    ∀ name ∈ pathComponents pieces, name ≠ ['.', '.'] → PathName name := by
  intro name hname hup
  rw [pathComponents, List.mem_filter] at hname
  obtain ⟨hmem, hkept⟩ := hname
  rw [decide_eq_true_eq] at hkept
  exact ⟨⟨hkept.1, hkept.2, hup⟩, h name hmem⟩

theorem pathName_lexically {names : List Name}
    (h : ∀ name ∈ names, name ≠ ['.', '.'] → PathName name) :
    ∀ name ∈ normalizePathLexically names, PathName name := by
  have hfold (done : Place) (hdone : ∀ name ∈ done, PathName name) :
      ∀ name ∈ names.foldl
        (fun done name => if name = ['.', '.'] then done.dropLast else done ++ [name]) done,
        PathName name := by
    induction names generalizing done with
    | nil => exact hdone
    | cons next names ih =>
        rw [List.foldl_cons]
        refine ih (fun name hname => h name (by simp [hname])) _ ?_
        split_ifs with hup
        · exact fun name hname => hdone name (List.mem_of_mem_dropLast hname)
        · intro name hname
          rcases List.mem_append.mp hname with hold | hnew
          · exact hdone name hold
          · rw [List.mem_singleton.mp hnew]
            exact h next (by simp) hup
  exact hfold [] (by simp)

theorem pathName_resolvedParent {tree : FileTree} {parent : List Name}
    (h : ∀ name ∈ parent, name ≠ ['.', '.'] → PathName name) :
    ∀ name ∈ resolvedParent tree parent, PathName name := by
  unfold resolvedParent
  cases hparent : canonicalize tree parent with
  | ok place => exact PathName.of_settled (canonicalize_eq_ok hparent).1
  | error error => exact pathName_lexically h

/-- What a path resolves to has no step up in it. -/
theorem pathName_resolved {tree : FileTree} {pieces : List Name}
    (h : ∀ piece ∈ pieces, '/' ∉ piece) :
    ∀ name ∈ resolveExistingOrParent tree pieces, PathName name := by
  unfold resolveExistingOrParent
  cases hpieces : canonicalize tree pieces with
  | ok place => exact PathName.of_settled (canonicalize_eq_ok hpieces).1
  | error error =>
      have hnames := pathName_components h
      have hparent : ∀ name ∈ resolvedParent tree (pathComponents pieces).dropLast, PathName name :=
        pathName_resolvedParent fun name hname =>
          hnames name (List.mem_of_mem_dropLast hname)
      dsimp only
      cases hlast : (pathComponents pieces).getLast? with
      | none => exact hparent
      | some last =>
          dsimp only
          split_ifs with hup
          · exact hparent
          · intro name hname
            rcases List.mem_append.mp hname with hold | hnew
            · exact hparent name hold
            · rw [List.mem_singleton.mp hnew]
              exact hnames last (List.mem_of_getLast? hlast) hup

namespace LocalWorkspace

theorem normalizedRoot_eq {workspace : LocalWorkspace} {tree : FileTree} {root : Place}
    (h : canonicalize tree workspace.root = .ok root) : workspace.normalizedRoot tree = root := by
  rw [normalizedRoot, h]

/-- A resolved path lies below the root, as far as it is spelled. -/
theorem resolvePath_below {workspace : LocalWorkspace} {tree : FileTree} {root target : Place}
    {path : String} (hroot : canonicalize tree workspace.root = .ok root)
    (hinside : workspace.allowOutsideRoot = false)
    (h : workspace.resolvePath tree path = .ok target) :
    ∃ names, target = root ++ names ∧ ∀ name ∈ names, PathName name := by
  simp only [resolvePath, normalizedRoot_eq hroot, hinside, Bool.not_false, Bool.true_and,
    unit_guard_bind, refuse_eq_ok, Bool.not_eq_false', pure_ok, Except.ok.injEq] at h
  obtain ⟨hlead, rfl⟩ := h
  obtain ⟨names, hnames⟩ := List.isPrefixOf_iff_prefix.mp hlead
  have hjoined : ∀ pieces : List Name, (∀ piece ∈ pieces, '/' ∉ piece) →
      ∀ piece ∈ root ++ pieces, '/' ∉ piece := by
    intro pieces hpieces piece hpiece
    rcases List.mem_append.mp hpiece with hold | hnew
    · exact (PathName.of_settled (canonicalize_eq_ok hroot).1 piece hold).noSlash
    · exact hpieces piece hnew
  refine ⟨names, hnames.symm, fun name hname => ?_⟩
  have hmem : name ∈ root ++ names := List.mem_append_right _ hname
  rw [hnames] at hmem
  split_ifs at hmem with habsolute
  · exact pathName_resolved (not_mem_splitOn _) name hmem
  · exact pathName_resolved (hjoined _ (not_mem_splitOn _)) name hmem

/-- No link below the root leads to an entry outside of it, and none that a path ends in, other
than one reserved for artifacts, to an entry that could be made outside. -/
structure LinksStay (tree : FileTree) (root : Place) : Prop where
  existing : tree.Stays root
  dangling : ∀ names, (∀ name ∈ names, PathName name) →
    isReservedArtifactPath (pathToPosix names) = false →
    ∀ found left, tree.seek true FileTree.maxLinks [] (root ++ names) = .ok (found, left) →
      tree.Fits found → root <+: found

/-- What the operations of the backend read and change, when they succeed, is below the root;
what is read under a path reserved for artifacts is below the artifact directory. -/
structure Confined (workspace : LocalWorkspace) (tree : FileTree) (root : Place) : Prop where
  read : ∀ path place, workspace.readPlace tree path = .ok place →
    artifactSegments path = .ok none → root <+: place
  artifact : ∀ path place segments, workspace.readPlace tree path = .ok place →
    artifactSegments path = .ok (some segments) →
    ∃ home, canonicalize tree workspace.artifactRoot = .ok home ∧ home <+: place
  list : ∀ base dirs, workspace.listedDirs tree base = .ok dirs → ∀ dir ∈ dirs, root <+: dir
  write : ∀ path content append written after,
    workspace.writeText tree path content append = .ok (written, after) →
    FileTree.SameOutside root tree after
  mkdir : ∀ path after, workspace.mkdir tree path = .ok after →
    FileTree.SameOutside root tree after

theorem lookup_below {tree : FileTree} {root place : Place} {names : List Name} {left : Nat}
    (hroot : tree.Settled root) (hstay : tree.Stays root) (hnames : ∀ name ∈ names, PathName name)
    (h : tree.lookup FileTree.maxLinks [] (root ++ names) = .ok (place, left)) :
    root <+: place := by
  rw [FileTree.lookup, FileTree.seek_from_settled false _ root names hroot] at h
  exact FileTree.lookup_stays hstay names (fun name hname => (hnames name hname).moves.2.2)
    FileTree.maxLinks le_rfl root place left hroot (List.prefix_refl _) h

theorem openedFile_eq_ok {tree : FileTree} {names : List Name} {place : Place}
    (h : openedFile tree names = .ok place) :
    ∃ left, tree.lookup FileTree.maxLinks [] names = .ok (place, left) := by
  unfold openedFile at h
  cases hlookup : tree.lookup FileTree.maxLinks [] names with
  | error error => simp [hlookup] at h
  | ok found =>
      simp only [hlookup] at h
      split_ifs at h
      exact ⟨found.2, by rw [← Except.ok.inj h]⟩

section Sufficient

variable {workspace : LocalWorkspace} {tree : FileTree} {root : Place}

theorem read_below (hroot : canonicalize tree workspace.root = .ok root)
    (hinside : workspace.allowOutsideRoot = false) (hstay : tree.Stays root) {path : String}
    {place : Place} (h : workspace.readPlace tree path = .ok place)
    (hplain : artifactSegments path = .ok none) : root <+: place := by
  simp only [readPlace, resolveReadPath, hplain, ok_bind, bind_eq_ok] at h
  obtain ⟨target, htarget, hopened⟩ := h
  obtain ⟨names, rfl, hnames⟩ := resolvePath_below hroot hinside htarget
  obtain ⟨left, hlookup⟩ := openedFile_eq_ok hopened
  exact lookup_below (canonicalize_eq_ok hroot).1 hstay hnames hlookup

theorem descend_below (hstay : tree.Stays root) (fuel links : Nat)
    (hlinks : links ≤ FileTree.maxLinks) (place : Place) (route : List Name)
    (hplace : tree.Settled place) (hbelow : root <+: place) :
    ∀ entry ∈ tree.descend fuel links place route, ∀ target, entry.target = some target →
      root <+: target := by
  induction fuel generalizing links place route with
  | zero => simp [FileTree.descend]
  | succ fuel ih =>
      intro entry hentry target htarget
      rw [FileTree.descend_succ, List.mem_flatMap] at hentry
      obtain ⟨name, hname, hvisit⟩ := hentry
      have hproper := FileTree.proper_of_node (FileTree.mem_childNames.mp hname) name (by simp)
      unfold FileTree.visit at hvisit
      cases hlookup : tree.lookup links place [name] with
      | error error =>
          rw [hlookup] at hvisit
          rw [List.mem_singleton.mp hvisit] at htarget
          cases htarget
      | ok found =>
          obtain ⟨next, left⟩ := found
          have hnext : root <+: next :=
            FileTree.lookup_stays hstay [name] (by simpa using hproper.notUp) links hlinks place next
              left hplace hbelow hlookup
          have hsettled := FileTree.lookup_settled links [name] place next left hplace hlookup
          have hleft := (FileTree.seek_left false links [name] place next left hlookup).trans hlinks
          rw [hlookup] at hvisit
          rcases List.mem_cons.mp hvisit with rfl | hinner
          · rw [← Option.some.inj htarget]
            exact hnext
          · split_ifs at hinner
            · exact ih left hleft next _ hsettled hnext entry hinner target htarget
            · cases hinner

theorem list_below (hroot : canonicalize tree workspace.root = .ok root)
    (hinside : workspace.allowOutsideRoot = false) (hstay : tree.Stays root) {base : String}
    {dirs : List Place} (h : workspace.listedDirs tree base = .ok dirs) :
    ∀ dir ∈ dirs, root <+: dir := by
  simp only [listedDirs, bind_eq_ok] at h
  obtain ⟨segments, -, h⟩ := h
  by_cases hreserved : segments.isSome = true
  · rw [if_pos hreserved, pure_ok, Except.ok.injEq] at h
    simp [← h]
  · rw [if_neg hreserved, bind_eq_ok] at h
    obtain ⟨target, htarget, h⟩ := h
    obtain ⟨names, rfl, hnames⟩ := resolvePath_below hroot hinside htarget
    cases hlookup : tree.lookup FileTree.maxLinks [] (root ++ names) with
    | error error =>
        simp only [hlookup, pure_ok, Except.ok.injEq] at h
        simp [← h]
    | ok found =>
        obtain ⟨place, links⟩ := found
        have hplace := lookup_below (canonicalize_eq_ok hroot).1 hstay hnames hlookup
        have hlinks := FileTree.seek_left false _ _ _ place links hlookup
        simp only [hlookup] at h
        split_ifs at h with hdir
        · rw [pure_ok, Except.ok.injEq] at h
          intro dir hmem
          rw [← h] at hmem
          rcases List.mem_cons.mp hmem with rfl | hmem
          · exact hplace
          · obtain ⟨entry, hentry, htarget⟩ := List.mem_filterMap.mp (List.mem_filter.mp hmem).1
            exact descend_below hstay _ links hlinks place [] (FileTree.settled_of_isDir hdir) hplace
              entry hentry dir htarget
        · rw [pure_ok, Except.ok.injEq] at h
          simp [← h]

theorem osResult_eq_ok {α : Type} {result : Except FileError α} {value : α} :
    osResult result = .ok value ↔ result = .ok value := by
  cases result <;> simp [osResult]

theorem resolveChange_below (hroot : canonicalize tree workspace.root = .ok root)
    (hinside : workspace.allowOutsideRoot = false) {path : String} {target : Place}
    (h : workspace.resolveChange tree path = .ok target) :
    ∃ names, target = root ++ names ∧ (∀ name ∈ names, PathName name) ∧
      isReservedArtifactPath (pathToPosix names) = false := by
  simp only [resolveChange, bind_eq_ok, refuse_eq_ok, exists_const, pure_ok, Except.ok.injEq] at h
  obtain ⟨-, resolved, hresolved, hreserved, rfl⟩ := h
  obtain ⟨names, rfl, hnames⟩ := resolvePath_below hroot hinside hresolved
  refine ⟨names, rfl, hnames, ?_⟩
  have hlead : root.isPrefixOf (root ++ names) = true :=
    List.isPrefixOf_iff_prefix.mpr (List.prefix_append _ _)
  simpa [isReservedTarget, normalizedRoot_eq hroot, hlead] using hreserved

/-- The directories of a path below the root are made below it. -/
theorem createDirAll_below (hroot : tree.Settled root) (hstay : tree.Stays root)
    {names : List Name} (hnames : ∀ name ∈ names, PathName name) {after : FileTree}
    (h : tree.createDirAll (root ++ names) = .ok after) :
    FileTree.MadeDirs root tree after (root ++ names) := by
  rw [FileTree.createDirAll, List.reverse_append] at h
  have hmade := FileTree.createDirs_made hroot hstay names.reverse
    (fun name hname => (hnames name (List.mem_reverse.mp hname)).moves) after h
  rwa [List.reverse_reverse] at hmade

theorem mkdir_below (hroot : canonicalize tree workspace.root = .ok root)
    (hinside : workspace.allowOutsideRoot = false) (hstay : tree.Stays root) {path : String}
    {after : FileTree} (h : workspace.mkdir tree path = .ok after) :
    FileTree.SameOutside root tree after := by
  simp only [mkdir, bind_eq_ok, osResult_eq_ok] at h
  obtain ⟨target, htarget, hmade⟩ := h
  obtain ⟨names, rfl, hnames, -⟩ := resolveChange_below hroot hinside htarget
  exact (createDirAll_below (canonicalize_eq_ok hroot).1 hstay hnames hmade).same

/-- Where a file is written once its directories are there. -/
theorem seek_below {prepared : FileTree} (hstay : LinksStay tree root)
    {above : List Name} {name : Name} (hnames : ∀ other ∈ above ++ [name], PathName other)
    (hfree : isReservedArtifactPath (pathToPosix (above ++ [name])) = false)
    (hmade : FileTree.MadeDirs root tree prepared (root ++ above)) {found : Place} {left : Nat}
    (hfits : prepared.Fits found)
    (h : prepared.seek true FileTree.maxLinks [] (root ++ (above ++ [name])) = .ok (found, left)) :
    root <+: found := by
  obtain ⟨place, rest, hlookup, -, hplace, rfl | hempty⟩ := hmade.found
  · exact hstay.dangling _ hnames hfree found left h hfits
  · rw [← List.append_assoc, FileTree.seek_append true _ _ [name] [] (by simp), hlookup] at h
    change prepared.seek true rest place [name] = _ at h
    rcases FileTree.seek_single (hnames name (by simp)).moves.2.2 h with rfl | rfl | hlink
    · exact hplace
    · exact hplace.trans (List.prefix_append _ _)
    · simp [FileTree.isLink, hempty name] at hlink

theorem write_below (hroot : canonicalize tree workspace.root = .ok root)
    (hinside : workspace.allowOutsideRoot = false) (hstay : LinksStay tree root)
    {path content : String} {append : Bool} {written : Nat} {after : FileTree}
    (h : workspace.writeText tree path content append = .ok (written, after)) :
    FileTree.SameOutside root tree after := by
  have hsettled := (canonicalize_eq_ok hroot).1
  simp only [writeText, bind_eq_ok, osResult_eq_ok, pure_ok, Except.ok.injEq, Prod.mk.injEq] at h
  obtain ⟨target, htarget, prepared, hprepared, changed, hchanged, -, rfl⟩ := h
  obtain ⟨names, rfl, hnames, hfree⟩ := resolveChange_below hroot hinside htarget
  obtain ⟨place, left, hfits, hseek, rfl⟩ := FileTree.writeFile_eq_ok hchanged
  rcases List.eq_nil_or_concat names with rfl | ⟨above, name, rfl⟩
  · have hkept : prepared = tree := by
      by_cases hnil : root = []
      · simpa [hnil, eq_comm] using hprepared
      · rw [List.append_nil, if_neg hnil, FileTree.createDirAll,
          FileTree.createDirs_settled (FileTree.settled_dropLast hsettled)] at hprepared
        split_ifs at hprepared
        exact (Except.ok.inj hprepared).symm
    subst hkept
    rw [List.append_nil, FileTree.seek_settled true _ root [] hsettled, Except.ok.injEq,
      Prod.mk.injEq] at hseek
    exact FileTree.put_sameOutside (by rw [← hseek.1]; exact List.prefix_refl _) _ hfits
  · rw [List.concat_eq_append] at *
    have hmade : FileTree.MadeDirs root tree prepared (root ++ above) := by
      have hparent : (root ++ (above ++ [name])).dropLast = root ++ above := by
        rw [← List.append_assoc, List.dropLast_concat]
      rw [if_neg (by simp), hparent] at hprepared
      exact createDirAll_below hsettled hstay.existing
        (fun other hother => hnames other (List.mem_append_left _ hother)) hprepared
    exact hmade.same.trans
      (FileTree.put_sameOutside (seek_below hstay hnames hfree hmade hfits hseek) _ hfits)

theorem exclusiveWorkspacePath_segments {path canonical : String}
    (h : exclusiveWorkspacePath path = .ok canonical) :
    ∀ segment ∈ canonical.toList.splitOn '/', segment ≠ ['.', '.'] := by
  simp only [exclusiveWorkspacePath, unit_guard_bind, refuse_eq_ok, pure_ok, Except.ok.injEq,
    List.intercalate_splitOn, String.ofList_toList] at h
  obtain ⟨-, hsegments, rfl⟩ := h
  intro segment hsegment hup
  rw [List.any_eq_false] at hsegments
  simpa [hup] using hsegments segment hsegment

theorem artifactSegments_some {path : String} {segments : List Name}
    (h : artifactSegments path = .ok (some segments)) :
    ∀ segment ∈ segments, segment ≠ ['.', '.'] := by
  unfold artifactSegments at h
  split_ifs at h
  · simp at h
  · simp only [bind_eq_ok, pure_ok, Except.ok.injEq, Option.some.injEq] at h
    obtain ⟨canonical, hcanonical, rfl⟩ := h
    exact exclusiveWorkspacePath_segments hcanonical
  · simp at h

/-- No link stands among the segments, so what they lead to is below where they start. -/
theorem checkArtifactSegments_below {segments target final : List Name} {place : Place}
    {left : Nat} (hsegments : ∀ segment ∈ segments, segment ≠ ['.', '.'])
    (h : checkArtifactSegments tree target segments = .ok final)
    (hlookup : tree.lookup FileTree.maxLinks [] final = .ok (place, left)) :
    ∃ home rest, tree.lookup FileTree.maxLinks [] target = .ok (home, rest) ∧ home <+: place := by
  induction segments generalizing target with
  | nil =>
      rw [checkArtifactSegments, Except.ok.injEq] at h
      subst h
      exact ⟨place, left, hlookup, List.prefix_refl _⟩
  | cons segment segments ih =>
      have hchecked : checkArtifactSegments tree (target ++ [segment]) segments = .ok final ∧
          ∀ text, tree.entryAt (target ++ [segment]) ≠ .ok (.link text) := by
        rw [checkArtifactSegments] at h
        cases hentry : tree.entryAt (target ++ [segment]) with
        | ok node =>
            rw [hentry] at h
            cases node with
            | link text => cases h
            | file content => exact ⟨h, by simp⟩
            | dir => exact ⟨h, by simp⟩
        | error error =>
            rw [hentry] at h
            cases error with
            | notFound => exact ⟨h, by simp⟩
            | notADirectory => cases h
            | tooManyLinks => cases h
            | alreadyExists => cases h
            | isADirectory => cases h
            | invalidName => cases h
      obtain ⟨next, rest, hnext, hbelow⟩ :=
        ih (fun other hother => hsegments other (by simp [hother])) hchecked.1
      rw [FileTree.lookup, FileTree.seek_append false _ target [segment] [] (by simp)] at hnext
      cases htarget : tree.lookup FileTree.maxLinks [] target with
      | error error =>
          rw [htarget] at hnext
          cases hnext
      | ok found =>
          obtain ⟨home, links⟩ := found
          rw [htarget] at hnext
          change tree.seek false links home [segment] = _ at hnext
          refine ⟨home, links, rfl, List.IsPrefix.trans ?_ hbelow⟩
          rcases FileTree.seek_single (hsegments segment (by simp)) hnext with rfl | rfl | hlink
          · exact List.prefix_refl _
          · exact List.prefix_append _ _
          · obtain ⟨text, htext⟩ := FileTree.isLink_iff.mp hlink
            have hsome : tree.node (home ++ [segment]) ≠ none := by simp [htext]
            have hdir := FileTree.isDir_iff.mpr (FileTree.closed_node hsome)
            refine absurd ?_ (hchecked.2 text)
            simp [FileTree.entryAt, htarget, hdir, htext]

theorem artifact_below {path : String} {place : Place} {segments : List Name}
    (h : workspace.readPlace tree path = .ok place)
    (hsegments : artifactSegments path = .ok (some segments)) :
    ∃ home, canonicalize tree workspace.artifactRoot = .ok home ∧ home <+: place := by
  simp only [readPlace, resolveReadPath, hsegments, ok_bind, bind_eq_ok] at h
  obtain ⟨final, ⟨-, -, hchecked⟩, hopened⟩ := h
  obtain ⟨left, hlookup⟩ := openedFile_eq_ok hopened
  obtain ⟨home, rest, hhome, hbelow⟩ :=
    checkArtifactSegments_below (artifactSegments_some hsegments) hchecked hlookup
  exact ⟨home, by rw [canonicalize, hhome]; rfl, hbelow⟩

end Sufficient

section Necessary

variable {workspace : LocalWorkspace} {tree : FileTree} {root : Place}

/-- A name that nothing in a directory has. -/
theorem exists_fresh (tree : FileTree) (place : Place) :
    ∃ length, tree.node (place ++ [List.replicate (length + 1) 'x']) = none := by
  let length := ((tree.childNames place).map List.length).foldr max 0
  refine ⟨length, ?_⟩
  by_contra hsome
  have hmem := FileTree.mem_childNames.mpr hsome
  have hle : (List.replicate (length + 1) 'x').length ≤ length :=
    FileTree.le_foldr_max _ _ (List.mem_map_of_mem hmem)
  rw [List.length_replicate] at hle
  omega

theorem fresh_pathName (length : Nat) : PathName (List.replicate (length + 1) 'x') := by
  have hx (dots : List Char) (hdots : 'x' ∉ dots) : List.replicate (length + 1) 'x' ≠ dots := by
    rintro rfl
    exact hdots (by simp)
  refine ⟨⟨hx _ (by simp), hx _ (by decide), hx _ (by decide)⟩, ?_⟩
  intro hmem
  exact absurd (List.eq_of_mem_replicate hmem) (by decide)

/-- The components of a path that goes into a directory that is not there and out again. -/
def detour (fresh : Name) (names : List Name) : List Name := fresh :: ['.', '.'] :: names

theorem canonicalize_detour (hroot : tree.Settled root) {fresh : Name} (hfresh : PathName fresh)
    (hnone : tree.node (root ++ [fresh]) = none) (names : List Name) :
    ∃ error, canonicalize tree (root ++ detour fresh names) = .error error := by
  obtain ⟨follow, hfollow⟩ := tree.seek_eq_stepThrough false FileTree.maxLinks
  rw [canonicalize, FileTree.lookup, FileTree.seek_from_settled false _ root _ hroot, hfollow,
    detour]
  by_cases hdir : tree.isDir root = true
  · rw [FileTree.stepThrough_missing hdir hfresh.moves hnone]
    exact ⟨_, rfl⟩
  · rw [FileTree.stepThrough_notDir (by simpa using hdir)]
    exact ⟨_, rfl⟩

/-- Such a path is only rewritten, and keeps its links. -/
theorem resolve_detour (hroot : tree.Settled root) {fresh : Name} (hfresh : PathName fresh)
    (hnone : tree.node (root ++ [fresh]) = none) {names : List Name} (hne : names ≠ [])
    (hnames : ∀ name ∈ names, PathName name) :
    resolveExistingOrParent tree (root ++ detour fresh names) = root ++ names := by
  obtain ⟨above, last, rfl⟩ : ∃ above last, names = above ++ [last] :=
    ⟨names.dropLast, names.getLast hne, (List.dropLast_append_getLast hne).symm⟩
  have hlast := (hnames last (by simp)).moves
  have hup : ∀ name ∈ above, name ≠ ['.', '.'] := fun name hname =>
    (hnames name (by simp [hname])).moves.2.2
  have hrootnames := PathName.of_settled hroot
  have hcomponents : pathComponents (root ++ detour fresh (above ++ [last])) =
      root ++ detour fresh (above ++ [last]) := by
    rw [pathComponents, List.filter_eq_self]
    intro name hname
    rw [decide_eq_true_eq]
    have hcases : PathName name ∨ name = ['.', '.'] := by
      simp only [detour, List.mem_append, List.mem_cons] at hname
      rcases hname with hmem | rfl | rfl | hmem
      · exact Or.inl (hrootnames name hmem)
      · exact Or.inl hfresh
      · exact Or.inr rfl
      · exact Or.inl (hnames name (by simpa using hmem))
    rcases hcases with hname | rfl
    · exact ⟨hname.moves.1, hname.moves.2.1⟩
    · decide
  have hwhole : root ++ detour fresh (above ++ [last]) = root ++ detour fresh above ++ [last] := by
    simp [detour]
  have hlexical : normalizePathLexically (root ++ detour fresh above) = root ++ above := by
    rw [normalizePathLexically, List.foldl_append,
      foldl_lexically root [] (fun name hname => (hrootnames name hname).moves.2.2), detour]
    simp only [List.nil_append, List.foldl_cons, hfresh.moves.2.2, if_false, if_true,
      List.dropLast_concat]
    exact foldl_lexically above root hup
  obtain ⟨error, herror⟩ := canonicalize_detour hroot hfresh hnone (above ++ [last])
  obtain ⟨parentError, hparent⟩ := canonicalize_detour hroot hfresh hnone above
  rw [resolveExistingOrParent, herror, hcomponents, hwhole]
  simp only [List.dropLast_concat, List.getLast?_concat, hlast.2.2, if_false, resolvedParent, hparent,
    hlexical]
  rw [List.append_assoc]

theorem detour_noSlash {fresh : Name} (hfresh : PathName fresh) {names : List Name}
    (hnames : ∀ name ∈ names, PathName name) : ∀ name ∈ detour fresh names, '/' ∉ name := by
  intro name hname
  simp only [detour, List.mem_cons] at hname
  rcases hname with rfl | rfl | hmem
  · exact hfresh.noSlash
  · decide
  · exact (hnames name hmem).noSlash

/-- The whole path of the detour, from the top. -/
def absoluteDetour (root : Place) (fresh : Name) (names : List Name) : String :=
  .ofList ('/' :: joinNames (root ++ detour fresh names))

theorem artifactSegments_absolute (root : Place) (fresh : Name) (names : List Name) :
    artifactSegments (absoluteDetour root fresh names) = .ok none := by
  have habsolute : isAbsolutePath (absoluteDetour root fresh names).toList = true := by
    rw [absoluteDetour, String.toList_ofList]
    rfl
  rw [artifactSegments, if_pos (Or.inl habsolute)]

theorem resolvePath_absolute (hroot : canonicalize tree workspace.root = .ok root)
    {fresh : Name} (hfresh : PathName fresh) (hnone : tree.node (root ++ [fresh]) = none)
    {names : List Name} (hne : names ≠ []) (hnames : ∀ name ∈ names, PathName name) :
    workspace.resolvePath tree (absoluteDetour root fresh names) = .ok (root ++ names) := by
  have hsettled := (canonicalize_eq_ok hroot).1
  have hsplit : (absoluteDetour root fresh names).toList.splitOn '/' =
      [] :: (root ++ detour fresh names) := by
    have hslash : ∀ name ∈ root ++ detour fresh names, '/' ∉ name := by
      intro name hname
      rcases List.mem_append.mp hname with hmem | hmem
      · exact (PathName.of_settled hsettled name hmem).noSlash
      · exact detour_noSlash hfresh hnames name hmem
    have hcons : ([] ++ '/' :: joinNames (root ++ detour fresh names)).splitOn '/' =
        [] :: (joinNames (root ++ detour fresh names)).splitOn '/' :=
      List.splitOn_append_cons_self_of_not_mem (by simp) _
    rw [absoluteDetour, String.toList_ofList, ← List.nil_append ('/' :: _), hcons,
      splitOn_text (by simp [detour]) hslash]
  have habsolute : isAbsolutePath (absoluteDetour root fresh names).toList = true := by
    rw [absoluteDetour, String.toList_ofList]
    rfl
  have hhome : workspace.expandHomePath (absoluteDetour root fresh names).toList =
      (absoluteDetour root fresh names).toList :=
    workspace.expandHomePath_of_ne (by rw [hsplit]; simp)
  have hlead : root.isPrefixOf (root ++ names) = true :=
    List.isPrefixOf_iff_prefix.mpr (List.prefix_append _ _)
  simp only [resolvePath, normalizedRoot_eq hroot, hhome, habsolute, if_true, hsplit,
    resolve_rooted, resolve_detour hsettled hfresh hnone hne hnames, hlead, Bool.not_true,
    Bool.and_false, refuse_false, ok_bind, pure_ok]

/-- A link that leads out of the root is read through. -/
theorem Confined.stays (h : Confined workspace tree root)
    (hroot : canonicalize tree workspace.root = .ok root) : tree.Stays root := by
  intro place hplace hlink found left hlookup
  obtain ⟨names, rfl⟩ := hplace
  have hsettled := (canonicalize_eq_ok hroot).1
  have hne : names ≠ [] := by
    rintro rfl
    rw [List.append_nil, hsettled.2] at hlink
    cases hlink
  have hnode : tree.node (root ++ names) ≠ none := by
    intro hnone
    simp [FileTree.isLink, hnone] at hlink
  have hnames : ∀ name ∈ names, PathName name := fun name hname =>
    .of_proper (FileTree.proper_of_node hnode name (by simp [hname]))
  obtain ⟨length, hnone⟩ := exists_fresh tree root
  have hresolved := resolvePath_absolute hroot (fresh_pathName length) hnone hne hnames
  have hplain := artifactSegments_absolute root (List.replicate (length + 1) 'x') names
  by_cases hfile : tree.isFile found = true
  · refine h.read (absoluteDetour root _ names) found ?_ hplain
    simp only [readPlace, resolveReadPath, hplain, ok_bind, hresolved, openedFile, hlookup, hfile,
      if_true]
  · have hdir : tree.isDir found = true := by
      have hfound := FileTree.lookup_settled _ _ [] found left FileTree.settled_nil hlookup
      obtain ⟨node, hsome⟩ := Option.ne_none_iff_exists'.mp hfound.1
      cases node with
      | file content => simp [FileTree.isFile, hsome] at hfile
      | dir => exact FileTree.isDir_iff.mpr hsome
      | link target => simp [FileTree.Settled, FileTree.isLink, hsome] at hfound
    have hdirs : workspace.listedDirs tree
        (absoluteDetour root (List.replicate (length + 1) 'x') names) = .ok (found ::
          ((tree.walk left found).filterMap (·.target)).filter (tree.isDir ·)) := by
      simp only [listedDirs, hplain, ok_bind, Option.isSome_none, Bool.false_eq_true, if_false,
        hresolved, hlookup, hdir, if_true, pure_ok]
    exact h.list _ _ hdirs found List.mem_cons_self

/-- The path of the detour, from the root. -/
def relativeDetour (fresh : Name) (names : List Name) : String :=
  .ofList (joinNames (detour fresh names))

theorem joinNames_detour (fresh : Name) {names : List Name} (hne : names ≠ []) :
    joinNames (detour fresh names) = fresh ++ '/' :: (['.', '.'] ++ '/' :: joinNames names) := by
  simp [joinNames, detour, List.intercalate_cons_of_ne_nil hne]

theorem normalize_detour (length : Nat) {names : List Name} (hne : names ≠ []) :
    normalizeWorkspacePath (relativeDetour (List.replicate (length + 1) 'x') names) =
      normalizeWorkspacePath (pathToPosix names) := by
  let slashed (c : Char) : Char := if c = '\\' then '/' else c
  have hfresh := fresh_pathName length
  have hkept : (List.replicate (length + 1) 'x').map slashed = List.replicate (length + 1) 'x' := by
    rw [List.map_replicate]
    rfl
  have hsegments : pathSegments (relativeDetour (List.replicate (length + 1) 'x') names) =
      List.replicate (length + 1) 'x' :: ['.', '.'] ::
        ((joinNames names).map slashed).splitOn '/' := by
    rw [pathSegments, relativeDetour, String.toList_ofList, joinNames_detour _ hne]
    change ((_ ++ '/' :: (['.', '.'] ++ '/' :: joinNames names)).map slashed).splitOn '/' = _
    rw [List.map_append, hkept]
    change (_ ++ '/' :: (['.', '.'] ++ '/' :: (joinNames names).map slashed)).splitOn '/' = _
    rw [List.splitOn_append_cons_self_of_not_mem hfresh.noSlash,
      List.splitOn_append_cons_self_of_not_mem (by decide)]
  have hposix : pathSegments (pathToPosix names) = ((joinNames names).map slashed).splitOn '/' := by
    rw [pathSegments, pathToPosix, String.toList_ofList, List.map_map]
    congr 1
    refine List.map_congr_left fun c _ => ?_
    by_cases hc : c = '\\' <;> simp [slashed, hc]
  rw [normalizeWorkspacePath, normalizeWorkspacePath, hsegments, hposix]
  have hup : pushSegment (pushSegment [] (List.replicate (length + 1) 'x')) ['.', '.'] = [] := by
    simp [pushSegment, hfresh.moves.1, hfresh.moves.2.1, hfresh.moves.2.2]
  rw [List.foldl_cons, List.foldl_cons, hup]

theorem resolvePath_relative (hroot : canonicalize tree workspace.root = .ok root) {length : Nat}
    (hnone : tree.node (root ++ [List.replicate (length + 1) 'x']) = none)
    {names : List Name} (hne : names ≠ []) (hnames : ∀ name ∈ names, PathName name) :
    workspace.resolvePath tree (relativeDetour (List.replicate (length + 1) 'x') names) =
      .ok (root ++ names) := by
  have hsettled := (canonicalize_eq_ok hroot).1
  have hfresh := fresh_pathName length
  have hsplit : (relativeDetour (List.replicate (length + 1) 'x') names).toList.splitOn '/' =
      detour (List.replicate (length + 1) 'x') names := by
    rw [relativeDetour, String.toList_ofList,
      splitOn_text (by simp [detour]) (detour_noSlash hfresh hnames)]
  have hrelative : isAbsolutePath
      (relativeDetour (List.replicate (length + 1) 'x') names).toList = false := by
    rw [relativeDetour, String.toList_ofList, joinNames_detour _ hne, List.replicate_succ]
    rfl
  have hhome : workspace.expandHomePath
      (relativeDetour (List.replicate (length + 1) 'x') names).toList =
      (relativeDetour (List.replicate (length + 1) 'x') names).toList :=
    workspace.expandHomePath_of_ne (by rw [hsplit]; simp [detour, List.replicate_succ])
  have hlead : root.isPrefixOf (root ++ names) = true :=
    List.isPrefixOf_iff_prefix.mpr (List.prefix_append _ _)
  simp only [resolvePath, normalizedRoot_eq hroot, hhome, hrelative, Bool.false_eq_true, if_false,
    hsplit, resolve_detour hsettled hfresh hnone hne hnames, hlead, Bool.not_true,
    Bool.and_false, refuse_false, ok_bind, pure_ok]

theorem resolveChange_relative (hroot : canonicalize tree workspace.root = .ok root) {length : Nat}
    (hnone : tree.node (root ++ [List.replicate (length + 1) 'x']) = none)
    {names : List Name} (hne : names ≠ []) (hnames : ∀ name ∈ names, PathName name)
    (hfree : isReservedArtifactPath (pathToPosix names) = false) :
    workspace.resolveChange tree (relativeDetour (List.replicate (length + 1) 'x') names) =
      .ok (root ++ names) := by
  have hpath : isReservedArtifactPath
      (relativeDetour (List.replicate (length + 1) 'x') names) = false := by
    rwa [isReservedArtifactPath, normalize_detour length hne]
  have htarget : workspace.isReservedTarget tree (root ++ names) = false := by
    simp [isReservedTarget, normalizedRoot_eq hroot, hfree]
  simp only [resolveChange, hpath, resolvePath_relative hroot hnone hne hnames, htarget,
    refuse_false, ok_bind, pure_ok]

/-- A file is made where a dangling link leads. -/
theorem Confined.dangling (h : Confined workspace tree root)
    (hroot : canonicalize tree workspace.root = .ok root) {names : List Name}
    (hnames : ∀ name ∈ names, PathName name)
    (hfree : isReservedArtifactPath (pathToPosix names) = false) {found : Place} {left : Nat}
    (hseek : tree.seek true FileTree.maxLinks [] (root ++ names) = .ok (found, left))
    (hfits : tree.Fits found) : root <+: found := by
  have hsettled := (canonicalize_eq_ok hroot).1
  by_cases hnew : tree.node found = none
  · rcases List.eq_nil_or_concat names with rfl | ⟨above, last, rfl⟩
    · rw [List.append_nil, FileTree.seek_settled true _ root [] hsettled, Except.ok.injEq,
        Prod.mk.injEq] at hseek
      rw [← hseek.1]
      exact List.prefix_refl _
    · rw [List.concat_eq_append] at hnames hfree hseek
      by_contra hout
      have hprepared : tree.createDirAll (root ++ above) = .ok tree := by
        rw [← List.append_assoc] at hseek
        obtain ⟨parent, rest, hparent, hdir⟩ := FileTree.parent_of_seek hseek
        rw [← List.reverse_reverse (root ++ above)] at hparent
        have hmoves : ∀ name ∈ (root ++ above).reverse,
            name ≠ [] ∧ name ≠ ['.'] ∧ name ≠ ['.', '.'] := by
          intro name hname
          rcases List.mem_append.mp (List.mem_reverse.mp hname) with hmem | hmem
          · exact (PathName.of_settled hsettled name hmem).moves
          · exact (hnames name (by simp [hmem])).moves
        rw [FileTree.createDirAll, FileTree.createDirs_existing hmoves hparent, if_pos hdir]
      obtain ⟨length, hnone⟩ := exists_fresh tree root
      have htarget := resolveChange_relative hroot hnone (by simp) hnames hfree
      have hparent : (root ++ (above ++ [last])).dropLast = root ++ above := by
        rw [← List.append_assoc, List.dropLast_concat]
      have hnonempty : ¬root ++ (above ++ [last]) = [] := by simp
      have hwritten := h.write
        (relativeDetour (List.replicate (length + 1) 'x') (above ++ [last])) "" false 0
        (tree.put found (.file "".toUTF8) hfits) (by
          simp only [writeText, htarget, ok_bind, hnonempty, if_false, hparent, hprepared, osResult,
            FileTree.writeFile, hseek, hfits.notDir, Bool.false_eq_true, hfits, dif_pos, pure_ok]
          rfl)
      have hchanged := hwritten found hout
      rw [FileTree.node_put, if_pos rfl, hnew] at hchanged
      cases hchanged
  · exact lookup_below hsettled (h.stays hroot) hnames
      (FileTree.seek_existing hnew FileTree.maxLinks (root ++ names) [] hseek)

end Necessary

/-- The backend is confined to its root exactly if no link below the root leads out of it. -/
theorem confined_iff (workspace : LocalWorkspace) (tree : FileTree) (root : Place)
    (hroot : canonicalize tree workspace.root = .ok root)
    (hinside : workspace.allowOutsideRoot = false) :
    Confined workspace tree root ↔ LinksStay tree root := by
  constructor
  · intro h
    exact ⟨h.stays hroot, fun _ hnames hfree _ _ hseek hfits =>
      h.dangling hroot hnames hfree hseek hfits⟩
  · intro h
    exact {
      read := fun _ _ hread hplain => read_below hroot hinside h.existing hread hplain
      artifact := fun _ _ _ hread hsegments => artifact_below hread hsegments
      list := fun _ _ hlist => list_below hroot hinside h.existing hlist
      write := fun _ _ _ _ _ hwrite => write_below hroot hinside h hwrite
      mkdir := fun _ _ hmkdir => mkdir_below hroot hinside h.existing hmkdir }

end LocalWorkspace

namespace Sample

/-- Two directories `/w` and `/o`, and a link `/w/l` to the missing `/o/n`. -/
def linkedTree : FileTree :=
  ((FileTree.bare.put [['w']] .dir (by decide)).put [['o']] .dir (by decide)).put
    [['w'], ['l']] (.link ['/', 'o', '/', 'n']) (by decide)

def linkedWorkspace : LocalWorkspace where
  root := [[], ['w']]
  artifactRoot := [[], ['t']]

theorem linkedWorkspace_root : canonicalize linkedTree linkedWorkspace.root = .ok [['w']] := rfl

end Sample

theorem LocalWorkspace.confined_iff_linked :
    Sample.linkedWorkspace.Confined Sample.linkedTree [['w']] ↔
      LocalWorkspace.LinksStay Sample.linkedTree [['w']] :=
  LocalWorkspace.confined_iff _ _ _ Sample.linkedWorkspace_root rfl

/-- Writing `l` below `/w` makes the file `/o/n`. -/
theorem LocalWorkspace.dangling_link_escapes :
    canonicalize Sample.linkedTree Sample.linkedWorkspace.root = .ok [['w']] ∧
      Sample.linkedTree.isFile [['o'], ['n']] = false ∧
      (∃ written after,
        Sample.linkedWorkspace.writeText Sample.linkedTree "l" "text" false = .ok (written, after) ∧
        after.isFile [['o'], ['n']] = true) ∧
      ¬Sample.linkedWorkspace.Confined Sample.linkedTree [['w']] := by
  have hwritten : ∃ written after,
      Sample.linkedWorkspace.writeText Sample.linkedTree "l" "text" false = .ok (written, after) ∧
      after.isFile [['o'], ['n']] = true :=
    ⟨_, _, rfl, rfl⟩
  refine ⟨Sample.linkedWorkspace_root, rfl, hwritten, fun h => ?_⟩
  obtain ⟨written, after, hafter, hfile⟩ := hwritten
  have hsame := h.write _ _ _ _ _ hafter [['o'], ['n']] (by decide)
  have hnone : Sample.linkedTree.node [['o'], ['n']] = none := rfl
  rw [hnone] at hsame
  simp [FileTree.isFile, hsame] at hfile

end VvAgent
