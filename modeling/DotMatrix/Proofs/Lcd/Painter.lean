import Mathlib.Data.List.Induction
import Mathlib.Data.List.Sort
import DotMatrix.Proofs.Lcd.Composition

/-!
The sprites of a line by the painter's algorithm. All forty are painted whole, from the one furthest to the
right to the one furthest to the left and from the last in the memory to the first, and whatever is painted
covers what was there before. The line that finds the owner of each column in one pass over the memory
comes to the same.
-/

namespace DotMatrix

namespace PixelRule

/-- An endless line of columns to paint on. The screen shows some of them. -/
abbrev Canvas := Int → Option ObjectDot

/-- Paints a column, unless the dot is transparent. -/
def Canvas.dab (canvas : Canvas) (column : Int) (dot : ObjectDot) : Canvas :=
  fun x => if x = column ∧ dot.colour ≠ clear then some dot else canvas x

section Painting

variable (lcd : Lcd)

/-- The height of all sprites. -/
def height : Nat :=
  if controlBit lcd 2 then 16 else 8

/-- The colour of a sprite at a place in it. It can be mirrored either way; a tall one has its upper half
from an even tile and its lower half from the next. -/
def texel (s : Sprite) (row column : Nat) : ColourId :=
  let row := if flag s 6 then height lcd - 1 - row else row
  let column := if flag s 5 then 7 - column else column
  let tile :=
    if controlBit lcd 2 then (s.tile &&& 0xFE).toNat + (if 8 ≤ row then 1 else 0)
    else s.tile.toNat
  rowColourAt lcd (16 * tile + 2 * (row % 8)) column

/-- Paints the row of a sprite that lies on the line at hand, if one does. -/
def paintSprite (canvas : Canvas) (s : Sprite) : Canvas :=
  let row : Int := lcd.line.toNat - spriteTop s
  if 0 ≤ row ∧ row < height lcd then
    (List.range 8).foldl
      (fun canvas (column : Nat) =>
        canvas.dab (spriteLeft s + column)
          { x := s.x
            colour := texel lcd s row.toNat column
            second := flag s 4
            below := flag s 7 }) canvas
  else canvas

/-- All sprites by their numbers, the one with the greatest coordinate first, and of those that are at the
same place the one with the greatest number. -/
def paintOrder : List Nat :=
  (List.range 40).insertionSort fun i j => Before lcd j i

/-- The canvas with all sprites painted on it. -/
def painted : Canvas :=
  ((paintOrder lcd).map (spriteAt lcd)).foldl (paintSprite lcd) fun _ => none

variable {lcd}

theorem Before.refl (i : Nat) : Before lcd i i :=
  Or.inr ⟨rfl, Nat.le_refl i⟩

theorem Before.total (i j : Nat) : Before lcd i j ∨ Before lcd j i := by
  unfold Before
  rw [← UInt8.toNat_inj, ← UInt8.toNat_inj]
  omega

theorem Before.trans {i j k : Nat} (h : Before lcd i j) (h' : Before lcd j k) : Before lcd i k := by
  unfold Before at *
  rw [← UInt8.toNat_inj] at *
  omega

theorem paintOrder_perm : (paintOrder lcd).Perm (List.range 40) :=
  List.perm_insertionSort _ _

theorem mem_paintOrder {i : Nat} : i ∈ paintOrder lcd ↔ i < 40 :=
  paintOrder_perm.mem_iff.trans List.mem_range

/-- What is painted later goes before what is painted earlier. -/
theorem paintOrder_pairwise : (paintOrder lcd).Pairwise fun i j => Before lcd j i := by
  have total : Std.Total fun i j => Before lcd j i := ⟨fun i j => Before.total j i⟩
  have trans : IsTrans Nat fun i j => Before lcd j i := ⟨fun _ _ _ ij jk => jk.trans ij⟩
  exact List.pairwise_insertionSort _ _

-- the order is known by these laws from here on, and never worked out for a memory that is not given
attribute [irreducible] paintOrder

end Painting

section Strokes

variable {lcd : Lcd} {s : Sprite}

/-- Dabs one beside the other, from a column on. -/
theorem foldl_dab (canvas : Canvas) (left : Int) (dots : Nat → ObjectDot) (count : Nat) (x : Int) :
    (List.range count).foldl (fun canvas column => canvas.dab (left + column) (dots column)) canvas x =
      if (0 ≤ x - left ∧ x - left < count) ∧ (dots (x - left).toNat).colour ≠ clear then
        some (dots (x - left).toNat)
      else canvas x := by
  induction count with
  | zero =>
      have none : ¬ (0 ≤ x - left ∧ x - left < (0 : Nat)) := by omega
      rw [if_neg fun h => none h.1]
      rfl
  | succ count ih =>
      rw [List.range_succ, List.foldl_append, List.foldl_cons, List.foldl_nil, Canvas.dab, ih]
      by_cases here : x = left + count
      · have before : ¬ (0 ≤ x - left ∧ x - left < (count : Nat)) := by omega
        have now : 0 ≤ x - left ∧ x - left < (count + 1 : Nat) := by omega
        have column : (x - left).toNat = count := by omega
        rw [column]
        by_cases visible : (dots count).colour ≠ clear
        · rw [if_pos ⟨here, visible⟩, if_pos ⟨now, visible⟩]
        · rw [if_neg fun h => visible h.2, if_neg fun h => before h.1, if_neg fun h => visible h.2]
      · have same : (0 ≤ x - left ∧ x - left < (count + 1 : Nat)) ↔
            (0 ≤ x - left ∧ x - left < (count : Nat)) := by omega
        simp only [here, false_and, if_false, same]

theorem toNat_and_even (tile : Byte) : (tile &&& 0xFE).toNat = tile.toNat - tile.toNat % 2 := by
  revert tile
  exact Byte.of_forall_lt (by decide +kernel)

/-- A sprite shows its place in the tiles where it is, and nothing elsewhere. -/
theorem spriteColour_eq_texel (lcd : Lcd) (s : Sprite) (x : Nat) {row column : Int}
    (hrow : row = lcd.line.toNat - spriteTop s) (hcolumn : column = x - spriteLeft s) :
    spriteColour lcd s x =
      if (0 ≤ row ∧ row < height lcd) ∧ 0 ≤ column ∧ column < 8 then
        texel lcd s row.toNat column.toNat
      else clear := by
  have tall : (if controlBit lcd 2 then 16 else 8 : Int) = height lcd := by
    unfold height
    split <;> rfl
  unfold spriteColour
  simp only [tall, ← hrow, ← hcolumn, and_assoc]
  split
  case isFalse => rfl
  case isTrue h =>
  have mirroredRow : (if flag s 6 then (height lcd : Int) - 1 - row else row).toNat =
      if flag s 6 then height lcd - 1 - row.toNat else row.toNat := by
    split <;> omega
  have mirroredColumn : (if flag s 5 then 7 - column else column).toNat =
      if flag s 5 then 7 - column.toNat else column.toNat := by
    split <;> omega
  have inside : (if flag s 6 then height lcd - 1 - row.toNat else row.toNat) < height lcd := by
    split <;> omega
  unfold texel
  simp only [mirroredRow, mirroredColumn, toNat_and_even]
  generalize (if flag s 6 then height lcd - 1 - row.toNat else row.toNat) = row' at inside
  congr 1
  -- the rows of a tall sprite go on from its even tile into the next one
  unfold height at inside
  split at inside
  · next two =>
      simp only [two, if_true]
      split <;> omega
  · next one =>
      simp only [one, if_false, Bool.false_eq_true]
      omega

/-- Painting a sprite covers a column with what the sprite shows there, unless that is transparent. -/
theorem paintSprite_apply (canvas : Canvas) (s : Sprite) (x : Nat) :
    paintSprite lcd canvas s x =
      if spriteColour lcd s x ≠ clear then some (Lcd.objectDot lcd s x) else canvas x := by
  have colour := spriteColour_eq_texel lcd s x rfl rfl
  unfold paintSprite
  by_cases rows : 0 ≤ (lcd.line.toNat : Int) - spriteTop s ∧
      (lcd.line.toNat : Int) - spriteTop s < height lcd
  · rw [if_pos rows, foldl_dab canvas (spriteLeft s)
      fun column => ⟨s.x, texel lcd s _ column, flag s 4, flag s 7⟩]
    by_cases columns : 0 ≤ (x : Int) - spriteLeft s ∧ (x : Int) - spriteLeft s < (8 : Nat)
    · rw [if_pos ⟨rows, columns⟩] at colour
      simp only [columns, and_self, true_and, Lcd.objectDot, colour]
    · rw [if_neg fun h => columns h.2] at colour
      rw [if_neg fun h => columns h.1, if_neg (not_not.mpr colour)]
  · rw [if_neg fun h => rows h.1] at colour
    rw [if_neg rows, if_neg (not_not.mpr colour)]

end Strokes

section Order

variable {lcd : Lcd} {x : Nat}

/-- Of some sprites, a column shows the opaque one that goes before all others. -/
def Shows (lcd : Lcd) (order : List Nat) (x : Nat) : Option ObjectDot → Prop
  | none => ∀ i ∈ order, ¬ Opaque lcd x i
  | some dot => ∃ i ∈ order, Opaque lcd x i ∧ (∀ j ∈ order, Opaque lcd x j → Before lcd i j) ∧
      dot = Lcd.objectDot lcd (spriteAt lcd i) x

/-- One more sprite that is transparent at a column leaves it as it is. -/
theorem Shows.transparent {order : List Nat} {shown : Option ObjectDot} (h : Shows lcd order x shown)
    {i : Nat} (hidden : ¬ Opaque lcd x i) : Shows lcd (order ++ [i]) x shown := by
  have opaque_old : ∀ j ∈ order ++ [i], Opaque lcd x j → j ∈ order := by
    intro j member visible
    rcases List.mem_append.mp member with old | last
    · exact old
    · obtain rfl := List.mem_singleton.mp last
      exact absurd visible hidden
  cases shown with
  | none =>
      intro j member visible
      exact h j (opaque_old j member visible) visible
  | some dot =>
      obtain ⟨j, member, visible, first, rfl⟩ := h
      refine ⟨j, List.mem_append_left _ member, visible, ?_, rfl⟩
      intro k member' visible'
      exact first k (opaque_old k member' visible') visible'

/-- After sprites are painted in an order in which each goes before those painted earlier, every column
shows the one that goes before all others there. -/
theorem foldl_paintSprite_shows {order : List Nat}
    (sorted : order.Pairwise fun i j => Before lcd j i) :
    Shows lcd order x ((order.map (spriteAt lcd)).foldl (paintSprite lcd) (fun _ => none) x) := by
  -- from the end of the order: the sprite that is painted last covers all others
  induction order using List.reverseRecOn with
  | nil =>
      intro i member
      cases member
  | append_singleton order i ih =>
      obtain ⟨sorted, -, later⟩ := List.pairwise_append.mp sorted
      rw [List.map_append, List.foldl_append, List.map_singleton, List.foldl_cons, List.foldl_nil,
        paintSprite_apply]
      by_cases visible : spriteColour lcd (spriteAt lcd i) x ≠ clear
      · rw [if_pos visible]
        refine ⟨i, List.mem_append_right _ List.mem_cons_self, visible, ?_, rfl⟩
        intro j member _
        rcases List.mem_append.mp member with old | last
        · exact later j old i List.mem_cons_self
        · obtain rfl := List.mem_singleton.mp last
          exact Before.refl j
      · rw [if_neg visible]
        exact (ih sorted).transparent visible

/-- The canvas shows at a column the owner that the first so many sprites give it, when these are all. -/
theorem painted_owned (lcd : Lcd) (x : Nat) : Lcd.Owned lcd 40 x (painted lcd x) := by
  have shows : Shows lcd (paintOrder lcd) x (painted lcd x) :=
    foldl_paintSprite_shows paintOrder_pairwise
  cases shown : painted lcd x with
  | none =>
      rw [shown] at shows
      exact fun i inside => shows i (mem_paintOrder.mpr inside)
  | some dot =>
      rw [shown] at shows
      obtain ⟨i, member, visible, first, rfl⟩ := shows
      refine ⟨i, ⟨mem_paintOrder.mp member, visible, ?_⟩, rfl⟩
      exact fun j inside visible' => first j (mem_paintOrder.mpr inside) visible'

end Order

end PixelRule

namespace Lcd

open PixelRule

/-- A column has one owner at most. -/
theorem Owned.unique {lcd : Lcd} {count x : Nat} {owner owner' : Option ObjectDot}
    (h : Owned lcd count x owner) (h' : Owned lcd count x owner') : owner = owner' := by
  cases owner with
  | none =>
      cases owner' with
      | none => rfl
      | some dot =>
          obtain ⟨i, leads, -⟩ := h'
          exact absurd leads.2.1 (h i leads.1)
  | some dot =>
      obtain ⟨i, leads, rfl⟩ := h
      cases owner' with
      | none => exact absurd leads.2.1 (h' i leads.1)
      | some dot' =>
          obtain ⟨j, leads', rfl⟩ := h'
          rw [leads.unique lcd leads']

/-- The owners of the columns, found in one pass over the memory, are what painting all sprites leaves on
the screen: from the greatest coordinate to the least, and from the last in the memory to the first. So each
column has the opaque pixel of the sprite there that goes before all others, by its coordinate and then by
its number, or none. A sprite shows the row that lies on the line at hand and its columns, mirrored as its
flags say, from its tile or from both tiles of a tall one. -/
theorem columnOwners_painted (lcd : Lcd) :
    lcd.columnOwners.toList = List.ofFn (fun x : Fin 160 => painted lcd x.val) ∧
    ((paintOrder lcd).Perm (List.range 40) ∧
      (paintOrder lcd).Pairwise fun i j => Before lcd j i) ∧
    (∀ x : Fin 160, Owned lcd 40 x.val (lcd.columnOwners.get x)) ∧
    ∀ (s : Sprite) (x : Nat),
      let row : Int := lcd.line.toNat - spriteTop s
      let column : Int := x - spriteLeft s
      spriteColour lcd s x =
        if (0 ≤ row ∧ row < PixelRule.height lcd) ∧ 0 ≤ column ∧ column < 8 then
          texel lcd s row.toNat column.toNat
        else clear := by
  refine ⟨?_, ⟨paintOrder_perm, paintOrder_pairwise⟩, ?_, ?_⟩
  · have owners : lcd.columnOwners = Vector.ofFn fun x : Fin Screen.width => painted lcd x.val := by
      apply Vector.ext
      intro x hx
      rw [Vector.getElem_ofFn]
      exact (columnOwners_owned hx).unique (painted_owned lcd x)
    rw [owners]
    exact Vector.toList_ofFn
  · intro x
    exact columnOwners_owned x.isLt
  · intro s x row column
    exact spriteColour_eq_texel lcd s x rfl rfl

/-- A line with four tall sprites. The first two are at the same place, and of these the first is mirrored
from left to right and shows its left half; the third is upside down and overlaps them on the right; the last
sticks out on the left. -/
def overlapping : Lcd :=
  { initial with
    control := 0x86
    line := 12
    vram := [(0x40, 0x0F), (0x60, 0xFF), (0x61, 0xF0), (0x97, 0xFF), (0x30, 0x03)].foldl
      (fun vram (offset, value) => Memory.write vram offset value) (Memory.zeros _)
    oam := Memory.ofArray _ #[28, 20, 4, 0x30, 28, 20, 6, 0x80, 24, 24, 9, 0x40, 20, 4, 2, 0x00] }

/-- The first sprite has its half, the second what the first one leaves, and the third what is left of its
columns then; of the last one, the columns on the screen are seen. -/
theorem columnOwners_painted_overlapping :
    [0, 2, 12, 15, 16, 19, 20, 23, 24].map (overlapping.columnOwners.toList[·]?) =
      [some none,
        some (some { x := 4, colour := 1, second := false, below := false }),
        some (some { x := 20, colour := 1, second := true, below := false }),
        some (some { x := 20, colour := 1, second := true, below := false }),
        some (some { x := 20, colour := 1, second := false, below := true }),
        some (some { x := 20, colour := 1, second := false, below := true }),
        some (some { x := 24, colour := 2, second := false, below := false }),
        some (some { x := 24, colour := 2, second := false, below := false }),
        some none] := by
  obtain ⟨owners, -⟩ := overlapping.columnOwners_painted
  rw [owners]
  decide +kernel

end Lcd

end DotMatrix
