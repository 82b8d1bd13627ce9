import DotMatrix.Proofs.Headless.Battery
import DotMatrix.Proofs.Headless.Files
import DotMatrix.Proofs.Headless.Session

/-!
Runs one after the other, each on the files that the one before has left. Every run leaves the RAM of its
console in the battery file, however its session has ended, and the next one begins with that.
-/

namespace DotMatrix

namespace Headless

section WriteAll

variable {files : Files} {name : String}

theorem writeAll_sameFolders (files : Files) (outputs : List (String × Array Byte)) :
    files.SameFolders (writeAll files outputs).1 := by
  induction outputs generalizing files with
  | nil => exact .refl files
  | cons output rest ih =>
      rw [writeAll]
      split
      · next written => exact (Files.write_sameFolders written).trans (ih _)
      · exact .refl files

/-- What is not written to is as before. -/
theorem writeAll_other {outputs : List (String × Array Byte)}
    (apart : ∀ output ∈ outputs, files.locate name ≠ files.locate output.1) :
    (writeAll files outputs).1.read name = files.read name := by
  induction outputs generalizing files with
  | nil => rfl
  | cons output rest ih =>
      rw [writeAll]
      split
      · next after written =>
          have same := Files.write_sameFolders written
          have first : after.read name = files.read name :=
            Files.read_other written (apart output List.mem_cons_self)
          rw [← first]
          apply ih
          intro later member
          rw [same.locate, same.locate]
          exact apart later (List.mem_cons_of_mem _ member)
      · rfl

end WriteAll

/-- A run as it is asked for. -/
structure Launch where
  settings : Settings
  /-- What the wall clock shows after so many cycles. -/
  clock : Nat → UInt64
  /-- The frames that are allowed, and the steps for each of them. -/
  patience : Nat

namespace Launch

variable (l : Launch) (rom : String) (files : Files)

/-- The console that a run begins with. -/
def opening : Except Result Console :=
  prepare rom (files.read rom) (files.read (batteryFile rom)) l.settings (l.clock 0)

/-- The console that a run ends with. -/
def closing (c : Console) : Console :=
  (Session.run l.settings l.clock l.patience l.patience (.start c) #[]).1.console

/-- The files that a run leaves. -/
def leaves : Files :=
  (run l.patience files rom l.settings l.clock).files

/-- The files that some runs leave, one after the other. -/
def leavesAll (rom : String) (files : Files) (launches : List Launch) : Files :=
  launches.foldl (fun files l => l.leaves rom files) files

/-- The battery file is wanted, and the state, if it is as well, goes into another file. -/
structure Saves : Prop where
  wanted : l.settings.saveRam = true
  elsewhere : ∀ name, l.settings.stateOut = some name →
    files.locate name ≠ files.locate rom ∧ files.locate name ≠ files.locate (batteryFile rom)

variable {l rom files} {files' : Files} {image : Array Byte} {cartridge : Cartridge} {c : Console}

theorem Saves.congr (h : l.Saves rom files) (same : files.SameFolders files') :
    l.Saves rom files' := by
  refine ⟨h.wanted, fun name asked => ?_⟩
  rw [same.locate, same.locate, same.locate]
  exact h.elsewhere name asked

theorem leaves_eq (opens : l.opening rom files = .ok c) :
    l.leaves rom files = (writeAll files (outputs rom l.settings (l.closing c))).1 := by
  rw [opening] at opens
  rw [leaves, run, opens]
  rfl

theorem closing_carries (h : c.Carries cartridge) : (l.closing c).Carries cartridge :=
  Session.run_induction (motive := fun c => c.Carries cartridge) (fun _ h => h.dispatch)
    (fun _ now h => h.setNow now) l.patience #[] h

theorem leaves_error {result : Result} (fails : l.opening rom files = .error result) :
    l.leaves rom files = files := by
  rw [opening] at fails
  rw [leaves, run, fails]

/-- The image is there, and the battery file is beside it. -/
structure Stands (rom : String) (image : Array Byte) (files : Files) : Prop where
  found : files.read rom = .ok image
  beside : ∃ place, files.locate (batteryFile rom) = some place ∧ files.locate rom ≠ some place

theorem stands (found : files.read rom = .ok image) (apart : rom.endsWith ".sav" = false) :
    Stands rom image files := by
  refine ⟨found, ?_⟩
  cases located : files.locate rom with
  | none =>
      rw [Files.read, located] at found
      cases found
  | some path =>
      obtain ⟨place, leads, ne⟩ := locate_batteryFile located apart
      exact ⟨place, leads, fun same => ne (Option.some.inj same).symm⟩

namespace Stands

theorem congr (h : Stands rom image files) (same : files.SameFolders files')
    (found : files'.read rom = .ok image) : Stands rom image files' := by
  obtain ⟨place, leads, apart⟩ := h.beside
  refine ⟨found, place, ?_, ?_⟩
  · rw [same.locate, leads]
  · rw [same.locate]
    exact apart

section Step

variable (h : Stands rom image files) (accepted : Cartridge.ofImage image = .ok cartridge)
  (lasts : cartridge.Lasting)
include h accepted lasts

/-- A run begins, whether there is a battery file or not, unless a folder is in its place. -/
theorem opens_iff (wanted : l.settings.saveRam = true) :
    (∃ c, l.opening rom files = .ok c) ↔ files.read (batteryFile rom) ≠ .error .unreadable := by
  rw [opening, h.found, prepare_lasting accepted lasts wanted]
  cases files.read (batteryFile rom) with
  | ok data => simp
  | error fault => cases fault <;> simp

/-- A run that has begun leaves the RAM of its console in the battery file, and the image as it was. -/
theorem step (saves : l.Saves rom files) (opens : l.opening rom files = .ok c) :
    ∃ banks, (l.closing c).Carries cartridge ∧
      (l.closing c).bus.slot.map (·.ram.contents) = some banks ∧
      banks.flatten.size = cartridge.header.batterySize ∧
      (l.leaves rom files).read (batteryFile rom) = .ok banks.flatten ∧
      files.SameFolders (l.leaves rom files) ∧ (l.leaves rom files).read rom = .ok image := by
  have ready := opens
  rw [opening, h.found] at ready
  have carries : (l.closing c).Carries cartridge :=
    closing_carries (prepare_carries accepted ready)
  obtain ⟨banks, held, kept, size⟩ := carries.batteryData?_eq lasts
  obtain ⟨place, leads, apart⟩ := h.beside
  have free : files.isFolder place = false :=
    Files.not_isFolder_of_read leads ((h.opens_iff accepted lasts saves.wanted).mp ⟨c, opens⟩)
  obtain ⟨between, written⟩ := Files.exists_write leads free banks.flatten
  have here := Files.write_sameFolders written
  let states := (l.settings.stateOut.map fun name =>
    (name, (l.closing c).snapshot.json.toUTF8.data)).toList
  have left : l.leaves rom files = (writeAll between states).1 := by
    rw [leaves_eq opens, outputs, if_pos saves.wanted, kept, Option.map_some, Option.toList_some,
      List.singleton_append, writeAll, written]
  have elsewhere : ∀ output ∈ states, between.locate rom ≠ between.locate output.1 ∧
      between.locate (batteryFile rom) ≠ between.locate output.1 := by
    intro output member
    obtain ⟨name, asked, rfl⟩ := Option.map_eq_some_iff.mp (Option.mem_toList.mp member)
    have other := saves.elsewhere name asked
    rw [here.locate, here.locate, here.locate]
    exact ⟨other.1.symm, other.2.symm⟩
  refine ⟨banks, carries, held, size, ?_, ?_, ?_⟩
  · rw [left, writeAll_other fun output member => (elsewhere output member).2]
    exact Files.read_written written
  · rw [left]
    exact here.trans (writeAll_sameFolders between states)
  · rw [left, writeAll_other fun output member => (elsewhere output member).1]
    have other : files.locate rom ≠ files.locate (batteryFile rom) := by
      rw [leads]
      exact apart
    rw [Files.read_other written other, h.found]

/-- Runs leave the folders and the image as they were. -/
theorem all (launches : List Launch) (saves : ∀ l ∈ launches, l.Saves rom files) :
    files.SameFolders (leavesAll rom files launches) ∧
      Stands rom image (leavesAll rom files launches) := by
  induction launches generalizing files with
  | nil => exact ⟨.refl files, h⟩
  | cons l rest ih =>
      have first : files.SameFolders (l.leaves rom files) ∧
          (l.leaves rom files).read rom = .ok image := by
        cases opens : l.opening rom files with
        | error result =>
            rw [leaves_error opens]
            exact ⟨.refl files, h.found⟩
        | ok c =>
            obtain ⟨-, -, -, -, -, kept⟩ := h.step accepted lasts (saves l List.mem_cons_self) opens
            exact kept
      obtain ⟨same, found⟩ := first
      obtain ⟨same', stands'⟩ := ih (h.congr same found) fun l' member =>
        (saves l' (List.mem_cons_of_mem l member)).congr same
      exact ⟨same.trans same', stands'⟩

end Step

end Stands

end Launch

/-- With a battery, and with a RAM for it to keep, a run begins with the RAM that the run before has
ended with, and the battery file between them has just that, of the size that the header asks for. Any
other file in its place is cut or filled up with zeros to that size, and what was taken out is put in
again as it was. The only thing in the way of a run is a folder in the place of the battery file. -/
theorem battery_survives {files : Files} {rom : String} {image : Array Byte} {cartridge : Cartridge}
    (found : files.read rom = .ok image) (accepted : Cartridge.ofImage image = .ok cartridge)
    (battery : cartridge.header.board.battery = true) (fitted : 0 < cartridge.header.ram.banks)
    (apart : rom.endsWith ".sav" = false) :
    let size := cartridge.header.ram.banks * if cartridge.header.board.kind = .mbc2 then 512 else 8192
    (∀ (earlier : List Launch) (last next : Launch),
      (∀ l ∈ earlier ++ [last, next], l.Saves rom files) →
        let before := Launch.leavesAll rom files earlier
        let between := last.leaves rom before
        ((∃ c, last.opening rom before = .ok c) ↔
          before.read (batteryFile rom) ≠ .error .unreadable) ∧
        ∀ c, last.opening rom before = .ok c →
          ∃ c' banks, next.opening rom between = .ok c' ∧
            (last.closing c).bus.slot.map (·.ram.contents) = some banks ∧
            c'.bus.slot.map (·.ram.contents) = some banks ∧
            between.read (batteryFile rom) = .ok banks.flatten ∧ banks.flatten.size = size) ∧
    ∀ (data : Array Byte) (settings : Settings) (now : UInt64), settings.saveRam = true →
      let padded := cartridge.header.padded data
      ∃ c c', prepare rom (.ok image) (.ok data) settings now = .ok c ∧
        c.bus.slot.map (·.ram.contents.flatten) = some padded ∧ c.batteryData? = some padded ∧
        padded.size = size ∧
        prepare rom (.ok image) (.ok padded) settings now = .ok c' ∧
        c'.bus.slot.map (·.ram.contents.flatten) = some padded ∧ c'.batteryData? = some padded := by
  intro size
  have lasts : cartridge.Lasting :=
    ⟨battery, fitted, Header.ofImage_maskable (Cartridge.ofImage_header accepted)⟩
  have size_eq : cartridge.header.batterySize = size := rfl
  constructor
  · intro earlier last next saves before between
    obtain ⟨same, stands⟩ := (Launch.stands found apart).all accepted lasts earlier
      fun l member => saves l (List.mem_append_left _ member)
    have lastSaves : last.Saves rom before :=
      (saves last (List.mem_append_right _ List.mem_cons_self)).congr same
    have wanted : next.settings.saveRam = true :=
      (saves next (List.mem_append_right _ (List.mem_cons_of_mem last List.mem_cons_self))).wanted
    refine ⟨stands.opens_iff accepted lasts lastSaves.wanted, fun c opens => ?_⟩
    obtain ⟨banks, carries, held, sized, kept, -, left⟩ :=
      stands.step accepted lasts lastSaves opens
    have reopens : next.opening rom between =
        .ok (((Console.initial (next.clock 0)).insert cartridge).loadBattery banks.flatten) := by
      rw [Launch.opening, left, kept]
      exact prepare_lasting accepted lasts wanted (.ok banks.flatten)
    have fresh := Console.insert_carries (next.clock 0) cartridge
    exact ⟨_, banks, reopens, held, fresh.loadBattery_same lasts carries held, kept,
      sized.trans size_eq⟩
  · intro data settings now wanted padded
    have fresh := Console.insert_carries now cartridge
    obtain ⟨held, kept⟩ := fresh.loadBattery_padded lasts data
    have again := fresh.loadBattery_padded lasts padded
    rw [Header.padded_padded] at again
    exact ⟨_, _, prepare_lasting accepted lasts wanted (.ok data), held, kept,
      (Header.padded_size _ data).trans size_eq,
      prepare_lasting accepted lasts wanted (.ok padded), again⟩

/-- An MBC2 with a battery, and a program that stores a byte in its RAM and then fails. -/
def noting : Array Byte :=
  (Console.programImage #[0x3E, 0x0A, 0xEA, 0x00, 0x00, 0x3E, 0x5A, 0xEA, 0x00, 0xA0, 0xDD]).set!
    0x0147 0x06

/-- A folder with the image in it. -/
def shelf : Files :=
  { here := [], folders := [["games"]], contents := [(["games", "note.gb"], noting)] }

def saving : Launch :=
  ⟨{ Settings.default with saveRam := true, stateOut := some "games/note.json" }, ticking, 10⟩

theorem noting_stores :
    ((saving.opening "games/note.gb" shelf).toOption.bind fun c =>
      (saving.closing c).bus.slot.map fun slot => (slot.ram.contents.getD 0 #[]).getD 0 0) =
      some 0x0A := by decide +kernel

theorem noting_lasts :
    ∃ cartridge, Cartridge.ofImage noting = .ok cartridge ∧
      cartridge.header.board.battery = true ∧ cartridge.header.ram.banks = 1 ∧
      cartridge.header.board.kind = .mbc2 := by
  have facts : (Cartridge.ofImage noting).toOption.map (fun cartridge =>
      (cartridge.header.board.battery, cartridge.header.ram.banks,
        decide (cartridge.header.board.kind = .mbc2))) = some (true, 1, true) := by decide +kernel
  obtain ⟨cartridge, accepted, facts⟩ := exists_ok_of_map facts
  simp only [Prod.mk.injEq, decide_eq_true_eq] at facts
  exact ⟨cartridge, accepted, facts⟩

theorem battery_survives_noting :
    ∃ c c' banks, saving.opening "games/note.gb" shelf = .ok c ∧
      saving.opening "games/note.gb" (saving.leaves "games/note.gb" shelf) = .ok c' ∧
      (saving.closing c).bus.slot.map (·.ram.contents) = some banks ∧
      c'.bus.slot.map (·.ram.contents) = some banks ∧ banks.flatten.size = 512 ∧
      (banks.getD 0 #[]).getD 0 0 = 0x0A := by
  have located : shelf.locate "games/note.gb" = some ["games", "note.gb"] := by decide +kernel
  have beside : shelf.locate (batteryFile "games/note.gb") = some ["games", "note.sav"] := by
    decide +kernel
  have state : shelf.locate "games/note.json" = some ["games", "note.json"] := by decide +kernel
  have found : shelf.read "games/note.gb" = .ok noting := by
    rw [Files.read, located]
    rfl
  have missing : shelf.read (batteryFile "games/note.gb") = .error .missing := by
    rw [Files.read, beside]
    rfl
  have saves : saving.Saves "games/note.gb" shelf := by
    refine ⟨rfl, fun name asked => ?_⟩
    obtain rfl := Option.some.inj asked
    rw [located, beside, state]
    decide
  obtain ⟨cartridge, accepted, battery, single, kind⟩ := noting_lasts
  have fitted : 0 < cartridge.header.ram.banks := by
    rw [single]
    exact Nat.one_pos
  obtain ⟨survives, -⟩ := battery_survives found accepted battery fitted (by decide +kernel)
  obtain ⟨opens, survives⟩ := survives [] saving saving (by simp [saves])
  obtain ⟨c, opens⟩ := opens.mpr fun folder => by
    rw [Launch.leavesAll, List.foldl_nil, missing] at folder
    cases folder
  obtain ⟨c', banks, reopens, held, held', -, size⟩ := survives c opens
  rw [single, kind, if_pos rfl] at size
  have opens : saving.opening "games/note.gb" shelf = .ok c := opens
  have first : (banks.getD 0 #[]).getD 0 0 = 0x0A := by
    have stored := noting_stores
    obtain ⟨slot, hslot, rfl⟩ := Option.map_eq_some_iff.mp held
    rw [opens, Except.toOption, Option.bind_some, hslot] at stored
    exact Option.some.inj stored
  exact ⟨c, c', banks, opens, reopens, held, held', size, first⟩

end Headless

end DotMatrix
