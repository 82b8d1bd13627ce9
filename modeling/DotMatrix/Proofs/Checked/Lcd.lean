import DotMatrix.Proofs.Checked.Basic
import DotMatrix.Proofs.Lcd.Timeline

/-!
The LCD controller with its checks. Tiles, maps and sprites are slices of their memories, the columns of
a line are set one by one, and the coordinates of sprites are signed. Drawing a line passes all checks,
whatever is in the memories; and so does a run of the controller, from any point of the frame.
-/

namespace DotMatrix

namespace TileAddressing

def tileNumberChecked (mode : TileAddressing) (index : Byte) : Checked Nat :=
  match mode with
  | unsigned => return index.toNat
  | signed => do
    let distance : Int := if index.toNat < 0x80 then index.toNat else index.toNat - 0x100
    return (← Checked.signed 64 (0x100 + distance)).toNat

theorem tileNumberChecked_eq (mode : TileAddressing) (index : Byte) :
    mode.tileNumberChecked index = some (mode.tileNumber index) := by
  have byte := index.toNat_lt
  cases mode with
  | unsigned => rfl
  | signed =>
      simp only [tileNumberChecked, tileNumber]
      split
      · rw [Checked.signed_eq (by omega) (by omega)]
        rfl
      · rw [Checked.signed_eq (by omega) (by omega), Option.bind_eq_bind, Option.bind_some]
        apply congrArg some
        omega

end TileAddressing

namespace Vram

def colourChecked (vram : Vram) (tile x y : Nat) : Checked ColourId := do
  let start := tile % tileCount * 16
  let bytes ← Checked.slice vram.toArray start (start + 16)
  let low ← bytes[y % 8 * 2]?
  let high ← bytes[y % 8 * 2 + 1]?
  let bit ← Checked.sub 7 (x % 8)
  let bit ← Checked.shift 8 bit
  return colourOfBits (high.bit bit) (low.bit bit)

theorem colourChecked_eq (vram : Vram) (tile x y : Nat) :
    vram.colourChecked tile x y = some (vram.colour tile x y) := by
  have number : tile % tileCount < 384 := Nat.mod_lt _ (by decide)
  have inside : tile % tileCount * 16 + 16 ≤ 0x2000 := by omega
  have low : tile % tileCount * 16 + y % 8 * 2 < tile % tileCount * 16 + 16 := by omega
  have high : tile % tileCount * 16 + (y % 8 * 2 + 1) < tile % tileCount * 16 + 16 := by omega
  have column : x % 8 ≤ 7 := by omega
  have bit : 7 - x % 8 < 8 := by omega
  simp only [colourChecked, vram.slice_eq (Nat.le_add_right _ 16) inside,
    vram.extract_getElem? inside low, vram.extract_getElem? inside high, Checked.sub_eq column,
    Checked.shift_eq bit, Option.bind_eq_bind, Option.bind_some]
  rfl

def mapEntryChecked (vram : Vram) (high : Bool) (column row : Nat) : Checked Byte := do
  let bytes ← Checked.slice vram.toArray (mapStart high) (mapStart high + 0x400)
  bytes[row % 32 * 32 + column % 32]?

theorem mapEntryChecked_eq (vram : Vram) (high : Bool) (column row : Nat) :
    vram.mapEntryChecked high column row = some (vram.mapEntry high column row) := by
  have inside : mapStart high + 0x400 ≤ 0x2000 := by cases high <;> decide
  have entry : mapStart high + (row % 32 * 32 + column % 32) < mapStart high + 0x400 := by omega
  simp only [mapEntryChecked, vram.slice_eq (Nat.le_add_right _ 0x400) inside,
    vram.extract_getElem? inside entry, Option.bind_eq_bind, Option.bind_some, mapEntry, byteAt,
    Nat.add_assoc]

def mapColourChecked (vram : Vram) (addressing : TileAddressing) (high : Bool) (x y : Nat) :
    Checked ColourId := do
  let entry ← vram.mapEntryChecked high (x / 8) (y / 8)
  vram.colourChecked (← addressing.tileNumberChecked entry) x y

theorem mapColourChecked_eq (vram : Vram) (addressing : TileAddressing) (high : Bool) (x y : Nat) :
    vram.mapColourChecked addressing high x y = some (vram.mapColour addressing high x y) := by
  simp only [mapColourChecked, mapEntryChecked_eq, TileAddressing.tileNumberChecked_eq,
    Option.bind_eq_bind, Option.bind_some, colourChecked_eq, mapColour]

end Vram

namespace Oam

def spriteChecked (oam : Oam) (index : Nat) : Checked Sprite := do
  let start := index % spriteCount * 4
  let bytes ← Checked.slice oam.toArray start (start + 4)
  return ⟨← bytes[0]?, ← bytes[1]?, ← bytes[2]?, ← bytes[3]?⟩

theorem spriteChecked_eq (oam : Oam) (index : Nat) :
    oam.spriteChecked index = some (oam.sprite index) := by
  have number : index % spriteCount < 40 := Nat.mod_lt _ (by decide)
  have inside : index % spriteCount * 4 + 4 ≤ 0xA0 := by omega
  have byte : ∀ i < 4, (oam.toArray.extract (index % spriteCount * 4)
      (index % spriteCount * 4 + 4))[i]? = some (Memory.read oam (index % spriteCount * 4 + i)) := by
    intro i hi
    exact oam.extract_getElem? inside (Nat.add_lt_add_left hi _)
  simp only [spriteChecked, oam.slice_eq (Nat.le_add_right _ 4) inside, byte 0 (by decide),
    byte 1 (by decide), byte 2 (by decide), byte 3 (by decide), Option.bind_eq_bind,
    Option.bind_some]
  rfl

end Oam

namespace Lcd

def shadeChecked (palette : Byte) (colour : ColourId) : Checked Shade := do
  let twice ← Checked.mul 8 colour.val 2
  let amount ← Checked.shift 8 twice
  return .ofEntry (palette.toNat >>> amount)

theorem shadeChecked_eq (palette : Byte) (colour : ColourId) :
    shadeChecked palette colour = some (shadeOf palette colour) := by
  have fits : colour.val * 2 < 2 ^ 8 := by omega
  have amount : colour.val * 2 < 8 := by omega
  simp only [shadeChecked, Checked.mul_eq fits, Checked.shift_eq amount, Option.bind_eq_bind,
    Option.bind_some, shadeOf, Nat.mul_comm 2]
  rfl

def backDotChecked (lcd : Lcd) (colour : ColourId) : Checked BackDot := do
  let shade ← shadeChecked lcd.bgPalette colour
  return ⟨colour, ⟨.background, shade⟩⟩

theorem backDotChecked_eq (lcd : Lcd) (colour : ColourId) :
    lcd.backDotChecked colour = some (lcd.backDot colour) := by
  simp only [backDotChecked, shadeChecked_eq, Option.bind_eq_bind, Option.bind_some]
  rfl

/-- Sets a number of columns of a line one by one. -/
def setColumns (line : Line BackDot) (first count : Nat) (dot : Nat → Checked BackDot) :
    Checked (Line BackDot) :=
  (List.range' first count).foldlM (fun line x => do Checked.set line x (← dot x)) line

theorem setColumns_eq {dot : Nat → Checked BackDot} {dots : Nat → BackDot} {first count : Nat}
    (h : ∀ x, first ≤ x → x < first + count → x < Screen.width ∧ dot x = some (dots x))
    (line : Line BackDot) :
    setColumns line first count dot =
      some (line.mapFinIdx fun x old _ =>
        if first ≤ x ∧ x < first + count then dots x else old) := by
  unfold setColumns
  induction count generalizing first line with
  | zero =>
      apply congrArg some
      apply Vector.ext
      intro x hx
      have outside : ¬ (first ≤ x ∧ x < first + 0) := by omega
      rw [Vector.getElem_mapFinIdx, if_neg outside]
  | succ count ih =>
      obtain ⟨inside, value⟩ := h first (Nat.le_refl _) (by omega)
      have start : (do Checked.set line first (← dot first)) = some (line.set first (dots first)) := by
        rw [value]
        exact Checked.set_eq inside _
      have later := ih (fun x (least : first + 1 ≤ x) (most : x < first + 1 + count) =>
        h x (by omega) (by omega)) (line.set first (dots first))
      rw [List.range'_succ, List.foldlM_cons, start]
      refine later.trans (congrArg some ?_)
      apply Vector.ext
      intro x hx
      rw [Vector.getElem_mapFinIdx, Vector.getElem_mapFinIdx, Vector.getElem_set]
      by_cases same : first = x
      · have now : first ≤ x ∧ x < first + (count + 1) := by omega
        have past : ¬ (first + 1 ≤ x ∧ x < first + 1 + count) := by omega
        rw [if_neg past, if_pos same, if_pos now, same]
      · have rest : (first + 1 ≤ x ∧ x < first + 1 + count) ↔
            (first ≤ x ∧ x < first + (count + 1)) := by omega
        simp only [rest, if_neg same]

/-- The background's dot in a column of a line of the map. -/
def backgroundDotChecked (lcd : Lcd) (y x : Nat) : Checked BackDot := do
  let bx ← Checked.add 64 x lcd.scrollX.toNat
  lcd.backDotChecked
    (← lcd.vram.mapColourChecked lcd.addressing lcd.bgMapHigh (bx % 0x100) (y % 0x100))

theorem backgroundDotChecked_eq (lcd : Lcd) {x : Nat} (column : x < Screen.width) (y : Nat) :
    lcd.backgroundDotChecked y x =
      some (lcd.backDot (lcd.vram.mapColour lcd.addressing lcd.bgMapHigh
        ((x + lcd.scrollX.toNat) % 0x100) (y % 0x100))) := by
  have scroll := lcd.scrollX.toNat_lt
  have fits : x + lcd.scrollX.toNat < 2 ^ 64 := by
    unfold Screen.width at column
    omega
  simp only [backgroundDotChecked, Checked.add_eq fits, Vram.mapColourChecked_eq,
    backDotChecked_eq, Option.bind_eq_bind, Option.bind_some]

theorem colours_pos : 0 < 4 := by decide

def backgroundLineChecked (lcd : Lcd) : Checked (Line BackDot) :=
  let blank : Line BackDot := Vector.replicate _ ⟨.mk 0 colours_pos, .blank⟩
  if lcd.bgEnabled then do
    let y ← Checked.add 64 lcd.line.toNat lcd.scrollY.toNat
    setColumns blank 0 Screen.width (lcd.backgroundDotChecked y)
  else
    return blank

theorem backgroundLineChecked_eq (lcd : Lcd) :
    lcd.backgroundLineChecked = some lcd.backgroundLine := by
  unfold backgroundLineChecked backgroundLine
  dsimp only
  split
  case isFalse => rfl
  case isTrue =>
    have scroll := lcd.scrollY.toNat_lt
    have fits : lcd.line.toNat + lcd.scrollY.toNat < 2 ^ 64 := by
      have := lcd.line.toNat_lt
      omega
    rw [Checked.add_eq fits, Option.bind_eq_bind, Option.bind_some,
      setColumns_eq fun x _ most => by
        rw [Nat.zero_add] at most
        exact ⟨most, lcd.backgroundDotChecked_eq most _⟩]
    apply congrArg some
    apply Vector.ext
    intro x hx
    have column : 0 ≤ x ∧ x < 0 + Screen.width := ⟨Nat.zero_le x, by rwa [Nat.zero_add]⟩
    rw [Vector.getElem_mapFinIdx, Vector.getElem_ofFn, if_pos column, UInt8.toNat_add]

/-- The window's dot in a column, given where its left edge and its line are. -/
def windowDotChecked (lcd : Lcd) (left : Int) (y x : Nat) : Checked BackDot := do
  let distance ← Checked.signed 64 (x - left)
  let wx := distance.toNat % 0x100
  lcd.backDotChecked (← lcd.vram.mapColourChecked lcd.addressing lcd.windowMapHigh wx y)

theorem windowDotChecked_eq (lcd : Lcd) {left : Int} {x : Nat} (least : -7 ≤ left)
    (most : left ≤ x) (column : x < Screen.width) (y : Nat) :
    lcd.windowDotChecked left y x =
      some (lcd.backDot (lcd.vram.mapColour lcd.addressing lcd.windowMapHigh
        ((x - left).toNat % 0x100) y)) := by
  unfold Screen.width at column
  have distance : Checked.signed 64 (x - left) = some (x - left) :=
    Checked.signed_eq (by omega) (by omega)
  simp only [windowDotChecked, distance, Vram.mapColourChecked_eq, backDotChecked_eq,
    Option.bind_eq_bind, Option.bind_some]

def overlayWindowChecked (lcd : Lcd) (line : Line BackDot) : Checked (Line BackDot) :=
  if lcd.windowEnabled && decide (lcd.windowY ≤ lcd.line) then do
    let left ← Checked.signed 64 (lcd.windowX.toNat - 7)
    let y ← lcd.line.subChecked lcd.windowY
    let first := left.toNat
    setColumns line first (Screen.width - first) (lcd.windowDotChecked left y.toNat)
  else return line

theorem overlayWindowChecked_eq (lcd : Lcd) (line : Line BackDot) :
    lcd.overlayWindowChecked line = some (lcd.overlayWindow line) := by
  unfold overlayWindowChecked overlayWindow
  split
  case isFalse => rfl
  case isTrue shows =>
    obtain ⟨-, above⟩ := Bool.and_eq_true_iff.mp shows
    have edge := lcd.windowX.toNat_lt
    have left : Checked.signed 64 (lcd.windowX.toNat - 7) = some ((lcd.windowX.toNat : Int) - 7) :=
      Checked.signed_eq (by omega) (by omega)
    simp only [left, Byte.subChecked_eq (of_decide_eq_true above), Option.bind_eq_bind,
      Option.bind_some]
    generalize hleft : (lcd.windowX.toNat : Int) - 7 = left
    have columns : ∀ x, left.toNat ≤ x → x < left.toNat + (Screen.width - left.toNat) →
        x < Screen.width := by
      intro x least most
      omega
    rw [setColumns_eq fun x least most =>
      ⟨columns x least most, lcd.windowDotChecked_eq (by omega) (by omega) (columns x least most) _⟩]
    apply congrArg some
    apply Vector.ext
    intro x hx
    have reached : left.toNat ≤ x ∧ x < left.toNat + (Screen.width - left.toNat) ↔
        lcd.windowX.toNat ≤ x + 7 := by omega
    have distance : (x - left).toNat = x + 7 - lcd.windowX.toNat := by omega
    simp only [Vector.getElem_mapFinIdx, reached, distance]

/-- The row of a sprite that lies on the line at hand, if one does. -/
def spriteRowChecked (lcd : Lcd) (sprite : Sprite) : Checked (Option Nat) := do
  let top ← Checked.signed 16 sprite.top
  let row ← Checked.signed 16 (lcd.line.toNat - top)
  if 0 ≤ row ∧ row < lcd.spriteHeight then
    if sprite.flipY then
      let row ← Checked.signed 16 (lcd.spriteHeight - 1 - row)
      return some row.toNat
    else return some row.toNat
  else return none

theorem spriteRowChecked_eq (lcd : Lcd) (sprite : Sprite) :
    lcd.spriteRowChecked sprite = some (lcd.spriteRow? sprite) := by
  have tall : lcd.spriteHeight ≤ 16 := by
    unfold spriteHeight
    split <;> decide
  have line := lcd.line.toNat_lt
  have y := sprite.y.toNat_lt
  have top : Checked.signed 16 sprite.top = some ((sprite.y.toNat : Int) - 16) :=
    Checked.signed_eq (by unfold Sprite.top; omega) (by unfold Sprite.top; omega)
  have row : Checked.signed 16 (lcd.line.toNat - (sprite.y.toNat - 16)) =
      some ((lcd.line.toNat : Int) - (sprite.y.toNat - 16)) :=
    Checked.signed_eq (by omega) (by omega)
  simp only [spriteRowChecked, top, row, Option.bind_eq_bind, Option.bind_some, spriteRow?]
  by_cases covers : sprite.y.toNat ≤ lcd.line.toNat + 16 ∧
      lcd.line.toNat + 16 - sprite.y.toNat < lcd.spriteHeight
  · have inside : (0 : Int) ≤ lcd.line.toNat - (sprite.y.toNat - 16) ∧
        (lcd.line.toNat : Int) - (sprite.y.toNat - 16) < lcd.spriteHeight := by omega
    rw [if_pos inside, if_pos covers]
    by_cases flipped : sprite.flipY
    · have mirrored : Checked.signed 16
          ((lcd.spriteHeight : Int) - 1 - (lcd.line.toNat - (sprite.y.toNat - 16))) =
          some ((lcd.spriteHeight : Int) - 1 - (lcd.line.toNat - (sprite.y.toNat - 16))) :=
        Checked.signed_eq (by omega) (by omega)
      have same : ((lcd.spriteHeight : Int) - 1 - (lcd.line.toNat - (sprite.y.toNat - 16))).toNat =
          lcd.spriteHeight - 1 - (lcd.line.toNat + 16 - sprite.y.toNat) := by omega
      rw [if_pos flipped, if_pos flipped, mirrored, Option.bind_some, same]
      rfl
    · have same : ((lcd.line.toNat : Int) - (sprite.y.toNat - 16)).toNat =
          lcd.line.toNat + 16 - sprite.y.toNat := by omega
      rw [if_neg flipped, if_neg flipped, same]
      rfl
  · have outside : ¬ ((0 : Int) ≤ lcd.line.toNat - (sprite.y.toNat - 16) ∧
        (lcd.line.toNat : Int) - (sprite.y.toNat - 16) < lcd.spriteHeight) := by omega
    rw [if_neg outside, if_neg covers]
    rfl

/-- Does a sprite pixel that has a column keep it against a sprite? -/
def keepsColumn (sprite : Sprite) : Option ObjectDot → Bool
  | some owner => decide (owner.x ≤ sprite.x)
  | none => false

def claimColumnChecked (lcd : Lcd) (sprite : Sprite) (row : Nat)
    (owners : Line (Option ObjectDot)) (px : Nat) : Checked (Line (Option ObjectDot)) := do
  let left ← Checked.signed 16 sprite.left
  let column ← Checked.signed 16 (left + px)
  if 0 ≤ column ∧ column < Screen.width then
    let tx ← (if sprite.flipX then Checked.sub 7 px else some px)
    let colour ← lcd.vram.colourChecked (lcd.spriteTile sprite row) tx (row % 8)
    if colour.val = 0 then return owners
    else
      let owner ← owners[column.toNat]?
      if keepsColumn sprite owner then return owners
      else
        Checked.set owners column.toNat
          (some ⟨sprite.x, colour, sprite.secondPalette, sprite.below⟩)
  else return owners

theorem claimColumnChecked_eq (lcd : Lcd) (sprite : Sprite) (row : Nat)
    (owners : Line (Option ObjectDot)) {px : Nat} (inside : px < 8) :
    lcd.claimColumnChecked sprite row owners px = some (lcd.claimColumn sprite row owners px) := by
  have x := sprite.x.toNat_lt
  have left : Checked.signed 16 sprite.left = some ((sprite.x.toNat : Int) - 8) :=
    Checked.signed_eq (by unfold Sprite.left; omega) (by unfold Sprite.left; omega)
  have column : Checked.signed 16 ((sprite.x.toNat : Int) - 8 + px) =
      some ((sprite.x.toNat : Int) - 8 + px) :=
    Checked.signed_eq (by omega) (by omega)
  have tx : (if sprite.flipX then Checked.sub 7 px else some px) =
      some (if sprite.flipX then 7 - px else px) := by
    rw [Checked.sub_eq (by omega)]
    exact (apply_ite some _ _ _).symm
  have onRow : ∀ tile tx, lcd.vram.colour tile tx (row % 8) = lcd.vram.colour tile tx row := by
    intro tile tx
    simp only [Vram.colour, Nat.mod_mod]
  simp only [claimColumnChecked, left, column, Option.bind_eq_bind, Option.bind_some, claimColumn]
  by_cases visible : 8 ≤ sprite.x.toNat + px ∧ sprite.x.toNat + px - 8 < Screen.width
  · have shown : (0 : Int) ≤ sprite.x.toNat - 8 + px ∧
        (sprite.x.toNat : Int) - 8 + px < Screen.width := by omega
    have index : ((sprite.x.toNat : Int) - 8 + px).toNat = sprite.x.toNat + px - 8 := by omega
    simp only [if_pos shown, dif_pos visible, tx, Vram.colourChecked_eq, onRow, index,
      Vector.getElem?_eq_getElem visible.2, Checked.set_eq visible.2, Option.bind_some]
    by_cases clear : (lcd.vram.colour (lcd.spriteTile sprite row)
        (if sprite.flipX then 7 - px else px) row).val = 0
    · simp only [clear, decide_true, Bool.true_or, if_true]
      rfl
    · simp only [clear, decide_false, Bool.false_or, if_false]
      exact (apply_ite some _ _ _).symm
  · have hidden : ¬ ((0 : Int) ≤ sprite.x.toNat - 8 + px ∧
        (sprite.x.toNat : Int) - 8 + px < Screen.width) := by omega
    rw [if_neg hidden, dif_neg visible]
    rfl

def claimSpriteChecked (lcd : Lcd) (owners : Line (Option ObjectDot)) (sprite : Sprite) :
    Checked (Line (Option ObjectDot)) := do
  match ← lcd.spriteRowChecked sprite with
  | some row => (List.range 8).foldlM (lcd.claimColumnChecked sprite row) owners
  | none => return owners

theorem claimSpriteChecked_eq (lcd : Lcd) (owners : Line (Option ObjectDot)) (sprite : Sprite) :
    lcd.claimSpriteChecked owners sprite = some (lcd.claimSprite owners sprite) := by
  rw [claimSpriteChecked, claimSprite, spriteRowChecked_eq, Option.bind_eq_bind, Option.bind_some]
  cases lcd.spriteRow? sprite with
  | none => rfl
  | some row =>
      exact Checked.foldlM_eq (fun owners px member =>
        lcd.claimColumnChecked_eq sprite row owners (List.mem_range.mp member)) owners

def columnOwnersChecked (lcd : Lcd) : Checked (Line (Option ObjectDot)) :=
  (List.range Oam.spriteCount).foldlM
    (fun owners index => do lcd.claimSpriteChecked owners (← lcd.oam.spriteChecked index))
    (Vector.replicate _ none)

theorem columnOwnersChecked_eq (lcd : Lcd) :
    lcd.columnOwnersChecked = some lcd.columnOwners := by
  have claim : ∀ owners, ∀ index ∈ List.range Oam.spriteCount,
      (do lcd.claimSpriteChecked owners (← lcd.oam.spriteChecked index)) =
        some (lcd.claimSprite owners (lcd.oam.sprite index)) := by
    intro owners index _
    rw [Oam.spriteChecked_eq, Option.bind_eq_bind, Option.bind_some, claimSpriteChecked_eq]
  rw [columnOwners, Oam.sprites, List.foldl_map]
  exact Checked.foldlM_eq claim _

def mergeDotChecked (lcd : Lcd) (dot : BackDot) (owner : Option ObjectDot) : Checked Pixel :=
  match owner with
  | none => return dot.pixel
  | some object =>
    if object.below && dot.colour.val != 0 then return dot.pixel
    else if object.second then
      return ⟨.object1, ← shadeChecked lcd.objPalette1 object.colour⟩
    else return ⟨.object0, ← shadeChecked lcd.objPalette0 object.colour⟩

theorem mergeDotChecked_eq (lcd : Lcd) (dot : BackDot) (owner : Option ObjectDot) :
    lcd.mergeDotChecked dot owner = some (lcd.mergeDot dot owner) := by
  unfold mergeDotChecked mergeDot
  cases owner with
  | none => rfl
  | some object =>
      simp only [shadeChecked_eq, Option.bind_eq_bind, Option.bind_some]
      split
      · rfl
      · split <;> rfl

def composeLineChecked (lcd : Lcd) : Checked (Line Pixel) := do
  let back ← lcd.overlayWindowChecked (← lcd.backgroundLineChecked)
  if lcd.spritesEnabled then
    let owners ← lcd.columnOwnersChecked
    Vector.ofFnM fun x => lcd.mergeDotChecked (back.get x) (owners.get x)
  else return back.map (·.pixel)

theorem composeLineChecked_eq (lcd : Lcd) : lcd.composeLineChecked = some lcd.composeLine := by
  simp only [composeLineChecked, composeLine, backgroundLineChecked_eq, overlayWindowChecked_eq,
    columnOwnersChecked_eq, Option.bind_eq_bind, Option.bind_some]
  by_cases sprites : lcd.spritesEnabled
  · rw [if_pos sprites, if_pos sprites, Checked.ofFnM_eq fun x => mergeDotChecked_eq _ _ _]
    apply congrArg some
    apply Vector.ext
    intro x hx
    rw [Vector.getElem_ofFn, Vector.getElem_zipWith]
    rfl
  · rw [if_neg sprites, if_neg sprites]
    rfl

end Lcd

namespace Bitmap

variable {width height : Nat}

/-- Copies a line to a row, which has to be as long as the line. There is no row past the bottom. -/
def setRowChecked (b : Bitmap width height) (y : Nat) (line : Vector Pixel width) :
    Checked (Bitmap width height) := do
  let row ← (if y < height then Checked.slice b.pixels.toArray (y * width) ((y + 1) * width)
    else some #[])
  if row.size = width then return b.setRow y line else none

theorem setRowChecked_eq {y : Nat} (inside : y < height) (b : Bitmap width height)
    (line : Vector Pixel width) : b.setRowChecked y line = some (b.setRow y line) := by
  have order : y * width ≤ (y + 1) * width := Nat.mul_le_mul_right width (Nat.le_succ y)
  have bottom : (y + 1) * width ≤ width * height := by
    rw [Nat.mul_comm width height]
    exact Nat.mul_le_mul_right width inside
  have size : (b.pixels.toArray.extract (y * width) ((y + 1) * width)).size = width := by
    rw [Array.size_extract, b.pixels.size_toArray, Nat.min_eq_left bottom, Nat.add_mul,
      Nat.one_mul, Nat.add_sub_cancel_left]
  have slice : Checked.slice b.pixels.toArray (y * width) ((y + 1) * width) = _ :=
    Checked.slice_eq order (by rwa [b.pixels.size_toArray])
  simp only [setRowChecked, if_pos inside, slice, Option.bind_eq_bind, Option.bind_some, size,
    if_true]
  rfl

end Bitmap

namespace Lcd

def drawLineChecked (lcd : Lcd) : Checked Lcd := do
  if lcd.line.toNat < Screen.height then
    let line ← lcd.composeLineChecked
    return { lcd with drawn := ← lcd.drawn.setRowChecked lcd.line.toNat line }
  else return lcd

theorem drawLineChecked_eq (lcd : Lcd) : lcd.drawLineChecked = some lcd.drawLine := by
  unfold drawLineChecked drawLine
  split
  case isTrue onScreen =>
    rw [composeLineChecked_eq, Option.bind_eq_bind, Option.bind_some,
      Bitmap.setRowChecked_eq onScreen]
    rfl
  case isFalse => rfl

def endModeChecked (lcd : Lcd) : Checked (Lcd × Byte) :=
  match lcd.mode with
  | .oamScan => return lcd.enter .drawing
  | .drawing => return (← lcd.drawLineChecked).enter .hblank
  | .hblank => do
    let line ← lcd.line.addChecked 1
    if lcd.line.toNat = Screen.height - 1 then
      let (lcd, requests) := { lcd.flush with line := line }.enter .vblank
      return (lcd, requests ||| Interrupt.vblank.mask)
    else return { lcd with line := line }.enter .oamScan
  | .vblank => do
    let line ← lcd.line.addChecked 1
    if Screen.lastLine < line.toNat then return { lcd with line := 0 }.enter .oamScan
    else return ({ lcd with line := line }, 0)

theorem endModeChecked_eq {lcd : Lcd} (h : lcd.OnLine) :
    lcd.endModeChecked = some lcd.endMode := by
  have last := h.last
  unfold Screen.lastLine at last
  have one : (1 : Byte).toNat = 1 := rfl
  have next : lcd.line.addChecked 1 = some (lcd.line + 1) := Byte.addChecked_eq (by omega)
  unfold endModeChecked endMode
  cases lcd.mode with
  | oamScan => rfl
  | drawing =>
      rw [drawLineChecked_eq]
      rfl
  | hblank =>
      rw [next]
      exact (apply_ite some _ _ _).symm
  | vblank =>
      have past : Screen.lastLine < (lcd.line + 1).toNat ↔ Screen.lastLine ≤ lcd.line.toNat := by
        rw [toNat_line_succ h.last, Nat.lt_succ_iff]
      simp only [next, Option.bind_eq_bind, Option.bind_some, past]
      exact (apply_ite some _ _ _).symm

example : endModeChecked { Lcd.initial with line := 0xFF } = none := rfl

/-- A run: the time in hand is lowered only by what is in it. -/
def runChecked (lcd : Lcd) (time : Nat) (requests : Byte) : Checked (Lcd × Byte) :=
  if lcd.mode.duration ≤ time then do
    let (next, more) ← lcd.endModeChecked
    next.runChecked (time - lcd.mode.duration) (requests ||| more)
  else return ({ lcd with modeClock := time }, requests)
termination_by time
decreasing_by
  have := lcd.mode.duration_pos
  omega

theorem runChecked_eq {lcd : Lcd} (h : lcd.OnLine) (time : Nat) (requests : Byte) :
    lcd.runChecked time requests = some (lcd.run time requests) := by
  induction time using Nat.strongRecOn generalizing lcd requests with
  | ind time ih =>
      rw [runChecked, run_eq]
      split
      case isTrue enough =>
        have pos := lcd.mode.duration_pos
        rw [endModeChecked_eq h, Option.bind_eq_bind, Option.bind_some]
        exact ih (time - lcd.mode.duration) (by omega) (endMode_onLine h) _
      case isFalse => rfl

def stepChecked (lcd : Lcd) (cycles : Nat) : Checked (Lcd × Byte) :=
  let lcd := { lcd with flushed := false }
  if lcd.enabled then do lcd.runChecked (← Checked.add 32 lcd.modeClock cycles) 0
  else return (lcd.restart .vblank, 0)

theorem stepChecked_eq {lcd : Lcd} (h : lcd.Placed) {cycles : Nat} (fits : cycles < 2 ^ 31) :
    lcd.stepChecked cycles = some (lcd.step cycles) := by
  have clock := h.clock
  have short : lcd.mode.duration ≤ 114 := by
    cases lcd.mode <;> decide
  have sum : lcd.modeClock + cycles < 2 ^ 32 := by omega
  have onLine : OnLine { lcd with flushed := false } := ⟨h.last, h.visible⟩
  unfold stepChecked step
  dsimp only
  split
  case isTrue =>
    rw [Checked.add_eq sum, Option.bind_eq_bind, Option.bind_some]
    exact runChecked_eq onLine _ _
  case isFalse => rfl

end Lcd

end DotMatrix
