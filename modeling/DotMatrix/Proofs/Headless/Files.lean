import DotMatrix.Headless.Run

/-!
Files that are written and read again. A file reads as what was last written to it, other files are as
before, and folders stay, so a name goes on leading to the same place. The battery file is beside the
image, and it is another file unless the image has the same extension.
-/

namespace DotMatrix

namespace Files

/-- The same folders, whatever is in the files. -/
structure SameFolders (fs fs' : Files) : Prop where
  here : fs'.here = fs.here
  folders : fs'.folders = fs.folders

namespace SameFolders

variable {fs fs' fs'' : Files}

theorem refl (fs : Files) : SameFolders fs fs :=
  ⟨rfl, rfl⟩

theorem trans (h : SameFolders fs fs') (h' : SameFolders fs' fs'') : SameFolders fs fs'' :=
  ⟨h'.here.trans h.here, h'.folders.trans h.folders⟩

theorem isFolder (h : SameFolders fs fs') (path : FilePath) :
    fs'.isFolder path = fs.isFolder path := by
  rw [Files.isFolder, Files.isFolder, h.folders]

theorem follow (h : SameFolders fs fs') (path : FilePath) (parts : List String) :
    fs'.follow path parts = fs.follow path parts := by
  induction parts generalizing path with
  | nil => rfl
  | cons part rest ih => simp only [Files.follow, h.isFolder, ih]

theorem locate (h : SameFolders fs fs') (name : String) : fs'.locate name = fs.locate name := by
  simp only [Files.locate, h.here, h.follow]

end SameFolders

section Write

variable {fs fs' : Files} {name other : String} {data : Array Byte} {path : FilePath}

theorem exists_write (located : fs.locate name = some path) (free : fs.isFolder path = false)
    (data : Array Byte) : ∃ fs', fs.write name data = some fs' := by
  simp only [write, located, free, Bool.false_eq_true, if_false]
  exact ⟨_, rfl⟩

/-- Where something can be read, or could be, there is no folder. -/
theorem not_isFolder_of_read (located : fs.locate name = some path)
    (readable : fs.read name ≠ .error .unreadable) : fs.isFolder path = false := by
  cases free : fs.isFolder path with
  | false => rfl
  | true =>
      rw [read, located] at readable
      exact absurd (if_pos free) readable

theorem of_write (written : fs.write name data = some fs') :
    ∃ path, fs.locate name = some path ∧ fs.isFolder path = false ∧
      fs' = { fs with contents := (path, data) :: fs.contents.filter (·.1 != path) } := by
  unfold write at written
  split at written
  · cases written
  · next path located =>
      split at written
      · cases written
      · next free =>
          exact ⟨path, located, Bool.eq_false_iff.mpr free, (Option.some.inj written).symm⟩

theorem write_sameFolders (written : fs.write name data = some fs') : fs.SameFolders fs' := by
  obtain ⟨path, -, -, rfl⟩ := of_write written
  exact ⟨rfl, rfl⟩

theorem read_written (written : fs.write name data = some fs') : fs'.read name = .ok data := by
  have same := write_sameFolders written
  obtain ⟨path, located, free, rfl⟩ := of_write written
  simp only [read, same.locate, located, same.isFolder, free, Bool.false_eq_true, if_false,
    List.lookup_cons, beq_self_eq_true]

/-- What is stored under a key does not matter for the others. -/
theorem lookup_replaced {contents : List (FilePath × Array Byte)} {path other : FilePath}
    (ne : other ≠ path) :
    ((path, data) :: contents.filter (·.1 != path)).lookup other = contents.lookup other := by
  rw [List.lookup_cons, beq_eq_false_iff_ne.mpr ne]
  induction contents with
  | nil => rfl
  | cons entry rest ih =>
      obtain ⟨key, stored⟩ := entry
      dsimp only at ih ⊢
      by_cases here : key = path
      · have missed : (other == key) = false := beq_eq_false_iff_ne.mpr (here ▸ ne)
        simp only [List.filter_cons, here, bne_self_eq_false, Bool.false_eq_true, if_false, ih]
        rw [← here, List.lookup_cons, missed]
      · have kept : (key != path) = true := bne_iff_ne.mpr here
        simp only [List.filter_cons, kept, if_true, List.lookup_cons, ih]

theorem read_other (written : fs.write name data = some fs')
    (ne : fs.locate other ≠ fs.locate name) : fs'.read other = fs.read other := by
  have same := write_sameFolders written
  obtain ⟨path, located, -, rfl⟩ := of_write written
  cases hother : fs.locate other with
  | none => simp only [read, same.locate, hother]
  | some place =>
      have apart : place ≠ path := by
        intro here
        rw [hother, located, here] at ne
        exact ne rfl
      simp only [read, same.locate, hother, same.isFolder, lookup_replaced apart]

end Write

section Locate

variable {fs : Files} {name : String} {path : FilePath}

theorem follow_append (fs : Files) (path : FilePath) (parts more : List String) :
    fs.follow path (parts ++ more) =
      (fs.follow path parts).bind fun inner => fs.follow inner more := by
  induction parts generalizing path with
  | nil => rfl
  | cons part rest ih =>
      simp only [List.cons_append, follow, ih]
      split
      · rfl
      · split
        · rfl
        · split <;> rfl

theorem follow_singleton (fs : Files) (folder : FilePath) (last : String) :
    fs.follow folder [last] =
      if fs.isFolder folder then
        some (if last = "" ∨ last = "." then folder
          else if last = ".." then folder.dropLast else folder ++ [last])
      else none := by
  simp only [follow]
  cases fs.isFolder folder with
  | false => rfl
  | true =>
      simp only [Bool.not_true, Bool.false_eq_true, if_false, if_true]
      split
      · rfl
      · split <;> rfl

/-- The parts of a name: those of the folder, and the last. -/
theorem parts_append {folder : List Char} (ends : folder = [] ∨ ∃ outer, folder = outer ++ ['/']) :
    ∃ steps : List String, ∀ last, '/' ∉ last →
      parts (String.ofList (folder ++ last)) = steps ++ [String.ofList last] := by
  rcases ends with rfl | ⟨outer, rfl⟩
  · refine ⟨[], fun last whole => ?_⟩
    rw [parts, String.toList_ofList, List.nil_append, List.splitOn_eq_singleton whole]
    rfl
  · refine ⟨(outer.splitOn '/').map String.ofList, fun last whole => ?_⟩
    have split : (outer ++ '/' :: last).splitOn '/' = outer.splitOn '/' ++ [last] := by
      rw [← List.splitOn_eq_singleton whole]
      exact List.splitOnP_append_cons outer last (beq_self_eq_true '/')
    rw [parts, String.toList_ofList, List.append_assoc, List.singleton_append, split,
      List.map_append, List.map_singleton]

/-- A name leads through its folder, and from there by its last part. -/
theorem locate_last (fs : Files) (steps : List String) :
    ∃ folder : Option FilePath, ∀ name last, parts name = steps ++ [last] →
      (steps = [] → last ≠ "") →
        fs.locate name = folder.bind fun folder => fs.follow folder [last] := by
  cases steps with
  | nil =>
      refine ⟨some fs.here, fun name last hparts named => ?_⟩
      have named := named rfl
      unfold locate
      rw [hparts]
      split
      · next empty => exact absurd (List.cons.inj empty).1 named
      · next empty => exact absurd (List.cons.inj empty).1 named
      · rfl
  | cons first rest =>
      by_cases top : first = ""
      · refine ⟨fs.follow [] rest, fun name last hparts _ => ?_⟩
        rw [← follow_append, locate, hparts, top]
        cases rest <;> rfl
      · refine ⟨fs.follow fs.here (first :: rest), fun name last hparts _ => ?_⟩
        rw [← follow_append]
        unfold locate
        rw [hparts]
        split
        · next empty => exact absurd (List.cons.inj empty).1 top
        · next empty => exact absurd (List.cons.inj empty).1 top
        · rfl

/-- A part of a name that is the name of something, not of the folder at hand or of the one around it. -/
def Ordinary (part : String) : Prop :=
  part ≠ "" ∧ part ≠ "." ∧ part ≠ ".."

theorem ordinary_of_length {part : List Char} (long : 2 < part.length) :
    Ordinary (String.ofList part) := by
  have ne {word : String} (short : word.toList.length ≤ 2) : String.ofList part ≠ word := by
    intro same
    rw [← same, String.toList_ofList] at short
    omega
  exact ⟨ne (by decide), ne (by decide), ne (by decide)⟩

/-- An ordinary name leads to a place in the folder; no other part leads there. -/
theorem follow_beside {folder : FilePath} {part other : String}
    (leads : fs.follow folder [part] = some path) (ordinary : Ordinary other) (ne : other ≠ part) :
    ∃ place, fs.follow folder [other] = some place ∧ place ≠ path := by
  obtain ⟨named, here, up⟩ := ordinary
  rw [follow_singleton] at leads ⊢
  split at leads
  · next there =>
      rw [if_pos there, if_neg (not_or.mpr ⟨named, here⟩), if_neg up]
      refine ⟨_, rfl, ?_⟩
      rw [← Option.some.inj leads]
      split
      · simp
      · split
        · intro same
          have lengths := congrArg List.length same
          rw [List.length_append, List.length_dropLast, List.length_singleton] at lengths
          omega
        · intro same
          exact ne (List.cons.inj (List.append_cancel_left same)).1
  · cases leads

/-- Two names with the same folder lead to different places. -/
theorem locate_beside {folder part other : List Char}
    (ends : folder = [] ∨ ∃ outer, folder = outer ++ ['/']) (hpart : '/' ∉ part)
    (hother : '/' ∉ other) (located : fs.locate (String.ofList (folder ++ part)) = some path)
    (ordinary : Ordinary (String.ofList other)) (ne : other ≠ part) :
    ∃ place, fs.locate (String.ofList (folder ++ other)) = some place ∧ place ≠ path := by
  obtain ⟨steps, hparts⟩ := parts_append ends
  have named : steps = [] → String.ofList part ≠ "" := by
    rintro rfl empty
    have nothing := hparts part hpart
    rw [empty] at nothing
    simp only [locate, nothing, List.nil_append] at located
    cases located
  obtain ⟨inner, hlocate⟩ := fs.locate_last steps
  rw [hlocate _ _ (hparts part hpart) named] at located
  rw [hlocate _ _ (hparts other hother) fun _ => ordinary.1]
  cases inner with
  | none => cases located
  | some inner => exact follow_beside located ordinary fun same => ne (String.ofList_inj.mp same)

end Locate

end Files

namespace Location

section Names

variable (location : List Char)

/-- The last part is what is after the last slash. -/
theorem splitLast_eq :
    splitLast location =
      ((location.reverse.dropWhile (· != '/')).reverse,
        (location.reverse.takeWhile (· != '/')).reverse) := by
  let front := (location.reverse.dropWhile (· != '/')).reverse
  let last := (location.reverse.takeWhile (· != '/')).reverse
  have whole : front ++ last = location := by
    rw [← List.reverse_append, List.takeWhile_append_dropWhile, List.reverse_reverse]
  have front_eq : location.take (location.length - last.length) = front := by
    rw [← whole, List.length_append, Nat.add_sub_cancel, List.take_left]
  exact Prod.ext front_eq rfl

theorem splitLast_spec {folder last : List Char} (split : splitLast location = (folder, last)) :
    folder ++ last = location ∧ (folder = [] ∨ ∃ outer, folder = outer ++ ['/']) ∧ '/' ∉ last := by
  rw [splitLast_eq] at split
  obtain ⟨rfl, rfl⟩ := Prod.mk.inj split
  refine ⟨?_, ?_, ?_⟩
  · rw [← List.reverse_append, List.takeWhile_append_dropWhile, List.reverse_reverse]
  · cases rest : location.reverse.dropWhile (· != '/') with
    | nil => exact Or.inl rfl
    | cons slash outer =>
        have stops := List.head?_dropWhile_not (· != '/') location.reverse
        rw [rest] at stops
        have here : slash = '/' := bne_eq_false_iff_eq.mp stops
        rw [here, List.reverse_cons]
        exact Or.inr ⟨outer.reverse, rfl⟩
  · intro slash
    have none := List.all_eq_true.mp (List.all_takeWhile (l := location.reverse)) '/'
      (List.mem_reverse.mp slash)
    cases none

theorem stem_subset (part : List Char) : stem part ⊆ part := by
  unfold stem
  split
  · next dot before rest =>
      split
      · exact List.Subset.refl part
      · intro c member
        have kept : c ∈ part.reverse.dropWhile (· != '.') := by
          rw [rest]
          exact List.mem_cons_of_mem dot (List.mem_reverse.mp member)
        exact List.mem_reverse.mp ((List.dropWhile_sublist _).subset kept)
  · exact List.Subset.refl part

theorem withExtension_eq (name extension : String) :
    withExtension name extension =
      String.ofList ((splitLast name.toList).1 ++
        (stem (splitLast name.toList).2 ++ '.' :: extension.toList)) := by
  apply String.toList_inj.mp
  simp [withExtension]

end Names

end Location

namespace Headless

theorem endsWith_of_append {name pattern : String} (front : List Char)
    (same : name.toList = front ++ pattern.toList) : name.endsWith pattern = true := by
  rw [String.endsWith_eq_endsWith_toSlice, String.Slice.endsWith_string_iff, String.copy_toSlice,
    same]
  exact List.suffix_append front pattern.toList

/-- If the image is there, so is the folder of the battery file, and that is another file. -/
theorem locate_batteryFile {files : Files} {rom : String} {path : FilePath}
    (located : files.locate rom = some path) (apart : rom.endsWith ".sav" = false) :
    ∃ other, files.locate (batteryFile rom) = some other ∧ other ≠ path := by
  rcases split : Location.splitLast rom.toList with ⟨folder, last⟩
  obtain ⟨whole, ends, slash⟩ := Location.splitLast_spec rom.toList split
  let saved := Location.stem last ++ ".sav".toList
  have battery : batteryFile rom = String.ofList (folder ++ saved) := by
    rw [batteryFile, Location.withExtension_eq, split]
    rfl
  have savedSlash : '/' ∉ saved := by
    intro member
    rcases List.mem_append.mp member with inStem | inExtension
    · exact slash (Location.stem_subset last inStem)
    · exact absurd inExtension (by decide)
  have long : 2 < saved.length := by
    rw [List.length_append]
    exact Nat.lt_add_left _ (by decide)
  have ne : saved ≠ last := by
    intro same
    have saves : rom.endsWith ".sav" = true := by
      apply endsWith_of_append (folder ++ Location.stem last)
      rw [← whole, List.append_assoc]
      exact congrArg (folder ++ ·) same.symm
    rw [apart] at saves
    cases saves
  have located : files.locate (String.ofList (folder ++ last)) = some path := by
    rw [whole, String.ofList_toList]
    exact located
  rw [battery]
  exact Files.locate_beside ends slash savedSlash located (Files.ordinary_of_length long) ne

end Headless

end DotMatrix
