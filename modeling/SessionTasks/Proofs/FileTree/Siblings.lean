/-
# Files of sessions beside each other

The paths of the files of two sessions differ in the last name only.  To write the one file
changes neither where the path of the other leads nor what stands there.

* `FileTree.sameAt_write_of_ne` : a file that is written is not the file of another session;
* `FileTree.SameAt.write` : trees that are the same at a path are written alike at it.
-/
import SessionTasks.Proofs.FileTree
import SessionTasks.Proofs.Recency.Ranking
namespace SessionTasks

/-- A text that does not hold the separator is one piece. -/
theorem Text.cutAt_of_not_mem {separator : Char} {text : List Char} (h : separator ∉ text) :
    cutAt separator text = [text] := by
  induction text with
  | nil => rfl
  | cons c rest ih =>
    rw [List.mem_cons, not_or] at h
    rw [cutAt, if_neg (Ne.symm h.1), ih h.2]

/-- What stands behind a text, without the separator, goes to its last piece. -/
theorem Text.cutAt_append (separator : Char) (text : List Char) :
    ∃ pieces last, ∀ more, separator ∉ more →
      cutAt separator (text ++ more) = pieces ++ [last ++ more] := by
  induction text with
  | nil => exact ⟨[], [], fun more hmore => cutAt_of_not_mem hmore⟩
  | cons c rest ih =>
    obtain ⟨pieces, last, hcut⟩ := ih
    by_cases hc : c = separator
    · refine ⟨[] :: pieces, last, fun more hmore => ?_⟩
      rw [List.cons_append, cutAt, if_pos hc, hcut more hmore, List.cons_append]
    · cases pieces with
      | nil =>
        refine ⟨[], c :: last, fun more hmore => ?_⟩
        rw [List.cons_append, cutAt, if_neg hc, hcut more hmore]
        rfl
      | cons piece pieces =>
        refine ⟨(c :: piece) :: pieces, last, fun more hmore => ?_⟩
        rw [List.cons_append, cutAt, if_neg hc, hcut more hmore]
        rfl

namespace FileTree

variable {tree tree' : FileTree} {path : String} {content : ByteArray}

/-! ## Paths of sessions -/

/-- The path of the file of a session, where paths start with `base`. -/
def sessionPath (base : String) (key : SessionKey) : String := base ++ "_" ++ key.text

theorem toList_sessionPath (base : String) (key : SessionKey) :
    (sessionPath base key).toList = base.toList ++ '_' :: key.text.toList := by
  unfold sessionPath
  rw [String.toList_append, String.toList_append, List.append_assoc]
  rfl

theorem slash_not_mem_key (key : SessionKey) : '/' ∉ key.text.toList := by
  intro h
  exact absurd (key.allowed '/' h) (by decide)

/-- The names of the paths of two sessions differ in the last one only. -/
theorem namesOf_sessionPath (base : String) :
    ∃ (folders : List String) (last : List Char), ∀ key : SessionKey,
      namesOf (sessionPath base key) =
        folders ++ [String.ofList (last ++ '_' :: key.text.toList)] := by
  obtain ⟨pieces, last, hcut⟩ := Text.cutAt_append '/' base.toList
  refine ⟨(pieces.filter (!·.isEmpty)).map String.ofList, last, fun key => ?_⟩
  have hslash : '/' ∉ '_' :: key.text.toList := by
    rw [List.mem_cons, not_or]
    exact ⟨by decide, slash_not_mem_key key⟩
  have hlast : (!(last ++ '_' :: key.text.toList).isEmpty) = true := by
    cases last <;> rfl
  unfold namesOf
  rw [toList_sessionPath, hcut _ hslash, List.filter_append, List.filter_singleton, hlast,
    List.map_append]
  rfl

/-- The paths of two sessions start in the same folder. -/
theorem startOf_sessionPath (tree : FileTree) (base : String) (key other : SessionKey) :
    tree.startOf (sessionPath base key) = tree.startOf (sessionPath base other) := by
  have hstart : ∀ key : SessionKey,
      (sessionPath base key).startsWith "/" = true ↔ base.toList.head? = some '/' := by
    intro key
    rw [String.startsWith_string_iff, toList_sessionPath]
    show ['/'] <+: _ ↔ _
    cases base.toList with
    | nil => simp
    | cons c rest => simp [eq_comm]
  have hsame : (sessionPath base key).startsWith "/" = (sessionPath base other).startsWith "/" := by
    rw [Bool.eq_iff_iff, hstart, hstart]
  unfold startOf
  rw [hsame]

/-- A name with `_` in it leads to a place of its own in a folder. -/
theorem child_of_underscore (folder : List String) {name : String} (h : '_' ∈ name.toList) :
    child folder name = folder ++ [name] := by
  unfold child
  rw [if_neg, if_neg]
  · rintro rfl
    exact absurd h (by decide)
  · rintro rfl
    exact absurd h (by decide)

/-- Two names lead from one folder to places with different paths. -/
theorem joined_concat_injective {folder : List String} {a b : String}
    (h : joined (folder ++ [a]) = joined (folder ++ [b])) : a = b := by
  have hcons : ∀ (first : String) (rest : List String) (name : String),
      joined (first :: (rest ++ [name])) = first ++ "/" ++ joined (rest ++ [name]) := by
    intro first rest name
    obtain ⟨second, others, heq⟩ : ∃ second others, rest ++ [name] = second :: others :=
      List.exists_cons_of_ne_nil (List.append_ne_nil_of_right_ne_nil rest (List.cons_ne_nil _ _))
    unfold joined
    rw [heq, String.intercalate_cons_cons]
  induction folder with
  | nil => exact h
  | cons first rest ih =>
    rw [List.cons_append, List.cons_append, hcons, hcons, String.append_right_inj] at h
    exact ih h

/-! ## What stands beside a file that is written -/

/-- The path leads to the same place in both trees, and the same stands there. -/
structure SameAt (path : String) (tree tree' : FileTree) : Prop where
  locate : tree'.locate path = tree.locate path
  entry : ∀ place, tree.locate path = .ok place → tree'.entryAt? place = tree.entryAt? place

theorem SameAt.refl (path : String) (tree : FileTree) : SameAt path tree tree :=
  ⟨rfl, fun _ _ => rfl⟩

theorem SameAt.symm (h : SameAt path tree tree') : SameAt path tree' tree :=
  ⟨h.locate.symm, fun place hplace => (h.entry place (h.locate ▸ hplace)).symm⟩

theorem SameAt.trans {tree'' : FileTree} (h : SameAt path tree tree')
    (h' : SameAt path tree' tree'') : SameAt path tree tree'' :=
  ⟨h'.locate.trans h.locate,
    fun place hplace => (h'.entry place (h.locate.trans hplace)).trans (h.entry place hplace)⟩

theorem follow_concat (tree : FileTree) (folder names : List String) (name : String) :
    tree.follow folder (names ++ [name]) =
      (tree.follow folder names).bind fun place => tree.follow place [name] := by
  induction names generalizing folder with
  | nil => rfl
  | cons first rest ih =>
    rw [List.cons_append]
    unfold follow
    split
    · rfl
    · rfl
    · split
      · rfl
      · exact ih _

/-- The last name of a path is looked up in a folder that is there. -/
theorem follow_singleton_of_folder {folder : List String}
    (h : tree.entryAt? folder = some .folder) (name : String) :
    tree.follow folder [name] =
      if 255 < name.utf8ByteSize then .error .nameTooLong else .ok (child folder name) := by
  unfold follow
  rw [h]
  rfl

theorem folder_of_follow_singleton {folder place : List String} {name : String}
    (h : tree.follow folder [name] = .ok place) : tree.entryAt? folder = some .folder := by
  unfold follow at h
  split at h
  · cases h
  · cases h
  · assumption

/-- Where the path of one session leads somewhere, the paths of all sessions lead to names of
their own in one folder, and do so as long as no folder goes. -/
theorem exists_folder_of_locate {base : String} {other : SessionKey} {place : List String}
    (h : tree.locate (sessionPath base other) = .ok place) :
    ∃ (folder : List String) (name : SessionKey → String), Function.Injective name ∧
      place = folder ++ [name other] ∧
      ∀ tree' : FileTree, tree'.working = tree.working →
        (∀ names, tree.entryAt? names = some .folder → tree'.entryAt? names = some .folder) →
        ∀ key, tree'.locate (sessionPath base key) =
          match pathFault? (sessionPath base key) with
          | some fault => .error fault
          | none =>
            if 255 < (name key).utf8ByteSize then .error .nameTooLong
            else .ok (folder ++ [name key]) := by
  obtain ⟨folders, last, hnames⟩ := namesOf_sessionPath base
  have hinjective : Function.Injective fun key : SessionKey =>
      String.ofList (last ++ '_' :: key.text.toList) := by
    intro a b heq
    have hlist := congrArg String.toList heq
    rw [String.toList_ofList, String.toList_ofList] at hlist
    have htext := List.append_cancel_left hlist
    rw [List.cons.injEq] at htext
    exact SessionKey.text_injective (String.toList_injective htext.2)
  have hchild : ∀ (folder : List String) (key : SessionKey),
      child folder (String.ofList (last ++ '_' :: key.text.toList)) =
        folder ++ [String.ofList (last ++ '_' :: key.text.toList)] := by
    intro folder key
    refine child_of_underscore folder ?_
    rw [String.toList_ofList]
    exact List.mem_append_right _ List.mem_cons_self
  -- the folder of the last name is there
  obtain ⟨folder, hfollow, hfolder, hplace⟩ : ∃ folder,
      tree.follow (tree.startOf (sessionPath base other)) folders = .ok folder ∧
        tree.entryAt? folder = some .folder ∧
        tree.follow folder [String.ofList (last ++ '_' :: other.text.toList)] = .ok place := by
    unfold locate at h
    split at h
    · cases h
    · rw [hnames, follow_concat] at h
      cases hfollow : tree.follow (tree.startOf (sessionPath base other)) folders with
      | error fault =>
        rw [hfollow] at h
        cases h
      | ok folder =>
        rw [hfollow] at h
        exact ⟨folder, rfl, folder_of_follow_singleton h, h⟩
  refine ⟨folder, _, hinjective, ?_, fun tree' hworking hfolders key => ?_⟩
  · rw [follow_singleton_of_folder hfolder, hchild] at hplace
    split at hplace
    · cases hplace
    · cases hplace
      rfl
  · have hstart : tree'.startOf (sessionPath base key) = tree.startOf (sessionPath base other) := by
      rw [startOf_sessionPath tree' base key other]
      unfold startOf
      rw [hworking]
    unfold locate
    rw [hnames, follow_concat, hstart, follow_of_folders hfolders hfollow]
    change (match pathFault? (sessionPath base key) with
      | some fault => Except.error fault
      | none => tree'.follow folder [_]) = _
    rw [follow_singleton_of_folder (hfolders folder hfolder), hchild]

/-- **A file that is written is not the file of another session.** -/
theorem sameAt_write_of_ne {base : String} {key other : SessionKey} (hne : key ≠ other)
    (h : tree.write (sessionPath base other) content = .ok tree') :
    SameAt (sessionPath base key) tree tree' := by
  obtain ⟨place, hplace, -, -, htree⟩ := write_eq_ok h
  obtain ⟨folder, name, hinjective, rfl, hlocate⟩ := exists_folder_of_locate hplace
  have hbefore := hlocate tree rfl (fun _ hnames => hnames) key
  have hafter := hlocate tree' (working_write h) (fun _ hnames => folder_write h hnames) key
  have hplaces : joined (folder ++ [name other]) ≠ joined (folder ++ [name key]) :=
    fun heq => hne (hinjective (joined_concat_injective heq)).symm
  refine ⟨hafter.trans hbefore.symm, fun own hown => ?_⟩
  rw [hbefore] at hown
  split at hown
  · cases hown
  · split at hown
    · cases hown
    · cases hown
      rw [htree, entryAt?_insert, if_neg hplaces]
      rfl

/-! ## Reading and writing -/

theorem SameAt.readText (h : SameAt path tree tree') : tree'.readText path = tree.readText path := by
  have hbytes : tree'.readBytes path = tree.readBytes path := by
    unfold readBytes
    rw [h.locate]
    cases hplace : tree.locate path with
    | error fault => rfl
    | ok place =>
      dsimp only [Bind.bind, Except.bind]
      rw [h.entry place hplace]
  unfold FileTree.readText
  rw [hbytes]

/-- **Trees that are the same at a path are written alike at it**, and are the same after that. -/
theorem SameAt.write (h : SameAt path tree tree') (content : ByteArray) :
    (∃ fault, tree.write path content = .error fault ∧ tree'.write path content = .error fault) ∨
      ∃ after after', tree.write path content = .ok after ∧
        tree'.write path content = .ok after' ∧ SameAt path after after' := by
  cases hplace : tree.locate path with
  | error fault =>
    have hplace' : tree'.locate path = .error fault := h.locate.trans hplace
    refine Or.inl ⟨fault, ?_, ?_⟩
    · unfold FileTree.write
      rw [hplace]
      rfl
    · unfold FileTree.write
      rw [hplace']
      rfl
  | ok place =>
    have hplace' : tree'.locate path = .ok place := h.locate.trans hplace
    -- both writes look at the entry of the place, which is the same, and at nothing else
    have hwrite : tree'.write path content = (tree.write path content).map fun _ =>
        { tree' with entries := tree'.entries.insert (joined place) (.file content) } := by
      unfold FileTree.write
      rw [hplace, hplace']
      dsimp only [Bind.bind, Except.bind]
      rw [h.entry place hplace]
      split
      · rfl
      · split <;> rfl
    cases hresult : tree.write path content with
    | error fault =>
      rw [hresult] at hwrite
      exact Or.inl ⟨fault, rfl, hwrite⟩
    | ok after =>
      rw [hresult] at hwrite
      refine Or.inr ⟨after, _, rfl, hwrite, ?_⟩
      have hafter := locate_write hresult hplace
      refine ⟨(locate_write hwrite hplace').trans hafter.symm, fun other hother => ?_⟩
      rw [hafter] at hother
      cases hother
      rw [entryAt?_write hresult hplace, entryAt?_write hwrite hplace']

end FileTree

end SessionTasks
