import DotMatrix.Proofs.Lcd.PixelRule
import DotMatrix.Proofs.Lcd.WholeFrames

/-!
A line is composed as the rule for its pixels says. The three layers are laid down for the whole line,
one after the other, and sprite by sprite; at each column that comes to what the rule says of the column
alone. The rest of the picture stays as it was.
-/

namespace DotMatrix

open PixelRule

namespace Vram

theorem colourOfBits_eq (high low : Bool) :
    colourOfBits high low = ⟨2 * high.toNat + low.toNat, twoBits_lt high low⟩ := by
  cases high <;> cases low <;> rfl

end Vram

/-- Two neighbouring bits are a digit in base four. -/
theorem twoBits_eq (n i : Nat) :
    n >>> (2 * i) % 4 = 2 * (n.testBit (2 * i + 1)).toNat + (n.testBit (2 * i)).toNat := by
  rw [Nat.toNat_testBit, Nat.toNat_testBit, Nat.pow_succ, Nat.shiftRight_eq_div_pow,
    ← Nat.div_div_eq_div_mul]
  omega

theorem shadeOf_eq (palette : Byte) (colour : ColourId) :
    shadeOf palette colour = shade palette colour := by
  rw [shadeOf, Shade.ofEntry, twoBits_eq, shade]
  cases palette.toNat.testBit (2 * colour.val + 1) <;>
    cases palette.toNat.testBit (2 * colour.val) <;> rfl

namespace Lcd

theorem control_bit (lcd : Lcd) (i : Nat) : lcd.control.bit i = controlBit lcd i := rfl

section Tiles

variable (lcd : Lcd)

theorem byteAt_eq {offset : Nat} (inside : offset < 0x2000) :
    lcd.vram.byteAt offset = vramByte lcd offset := by
  simp only [Vram.byteAt, Memory.read, vramByte, Nat.mod_eq_of_lt inside]

theorem colour_eq {tile : Nat} (known : tile < Vram.tileCount) (x y : Nat) :
    lcd.vram.colour tile x y = rowColourAt lcd (16 * tile + 2 * (y % 8)) (x % 8) := by
  unfold Vram.tileCount at known
  have start : tile % Vram.tileCount * 16 + y % 8 * 2 = 16 * tile + 2 * (y % 8) := by
    unfold Vram.tileCount
    omega
  simp only [Vram.colour, start, rowColourAt, rowColour, Vram.colourOfBits_eq]
  rw [byteAt_eq lcd (by omega), byteAt_eq lcd (by omega)]
  rfl

/-- The number of the tile of a map entry. -/
theorem tileNumber_eq (entry : Byte) :
    16 * lcd.addressing.tileNumber entry = tileStart lcd entry ∧
      lcd.addressing.tileNumber entry < Vram.tileCount := by
  have byte := entry.toNat_lt
  have signed : entry.toInt8.toInt =
      if entry.toNat < 0x80 then (entry.toNat : Int) else entry.toNat - 0x100 := by
    rw [Int8.toInt, UInt8.toBitVec_toInt8, BitVec.toInt_eq_toNat_cond]
    simp only [UInt8.toNat_toBitVec]
    split <;> split <;> omega
  have addressing : lcd.addressing = if controlBit lcd 4 then .unsigned else .signed := rfl
  rw [addressing]
  unfold tileStart Vram.tileCount
  cases controlBit lcd 4 with
  | true =>
      simp only [if_true, TileAddressing.tileNumber, true_and]
      omega
  | false =>
      simp only [Bool.false_eq_true, if_false, TileAddressing.tileNumber, signed]
      split <;> omega

theorem mapColour_eq (high : Bool) {x y : Nat} (hx : x < 0x100) (hy : y < 0x100) :
    lcd.vram.mapColour lcd.addressing high x y = mapColour lcd high x y := by
  have place : Vram.mapStart high + y / 8 % 32 * 32 + x / 8 % 32 =
      (if high then 0x1C00 else 0x1800) + 32 * (y / 8) + x / 8 := by
    unfold Vram.mapStart
    omega
  have inside : (if high then 0x1C00 else 0x1800) + 32 * (y / 8) + x / 8 < 0x2000 := by
    split <;> omega
  have entry : lcd.vram.mapEntry high (x / 8) (y / 8) =
      vramByte lcd ((if high then 0x1C00 else 0x1800) + 32 * (y / 8) + x / 8) := by
    rw [Vram.mapEntry, place, byteAt_eq lcd inside]
  obtain ⟨start, known⟩ := lcd.tileNumber_eq (lcd.vram.mapEntry high (x / 8) (y / 8))
  rw [Vram.mapColour, lcd.colour_eq known, start, entry]
  rfl

end Tiles

section Ground

variable (lcd : Lcd) {x : Nat}

theorem backgroundLine_getElem (hx : x < Screen.width) :
    lcd.backgroundLine[x] =
      if controlBit lcd 0 then lcd.backDot (backgroundColour lcd x) else ⟨0, .blank⟩ := by
  have row : (lcd.line + lcd.scrollY).toNat = (lcd.line.toNat + lcd.scrollY.toNat) % 0x100 :=
    UInt8.toNat_add _ _
  unfold backgroundLine
  cases enabled : controlBit lcd 0 with
  | true =>
      simp only [bgEnabled, control_bit, enabled, if_true, Vector.getElem_ofFn, row]
      rw [lcd.mapColour_eq _ (Nat.mod_lt _ (by decide)) (Nat.mod_lt _ (by decide))]
      rfl
  | false =>
      simp only [bgEnabled, control_bit, enabled, Bool.false_eq_true, if_false,
        Vector.getElem_replicate]
      rfl

theorem inWindow_iff (x : Nat) :
    InWindow lcd x ↔
      (lcd.windowEnabled && decide (lcd.windowY ≤ lcd.line)) = true ∧
        lcd.windowX.toNat ≤ x + 7 := by
  have left : windowLeft lcd ≤ x ↔ lcd.windowX.toNat ≤ x + 7 := by
    unfold windowLeft
    omega
  rw [InWindow, left, Bool.and_eq_true, decide_eq_true_iff, UInt8.le_iff_toNat_le, and_assoc]
  rfl

theorem windowColour_eq (hx : x < Screen.width) (inside : InWindow lcd x) :
    lcd.vram.mapColour lcd.addressing lcd.windowMapHigh ((x + 7 - lcd.windowX.toNat) % 0x100)
        (lcd.line - lcd.windowY).toNat =
      windowColour lcd x := by
  obtain ⟨-, above, left⟩ := inside
  unfold Screen.width at hx
  have line := lcd.line.toNat_lt
  have row : (lcd.line - lcd.windowY).toNat = lcd.line.toNat - lcd.windowY.toNat :=
    UInt8.toNat_sub_of_le _ _ (UInt8.le_iff_toNat_le.mpr above)
  have column : (x + 7 - lcd.windowX.toNat) % 0x100 = (x - windowLeft lcd).toNat := by
    unfold windowLeft at left ⊢
    omega
  rw [row, lcd.mapColour_eq _ (Nat.mod_lt _ (by decide)) (by omega), column]
  rfl

theorem overlayWindow_inside (under : Line BackDot) (hx : x < Screen.width)
    (inside : InWindow lcd x) :
    (lcd.overlayWindow under)[x] = lcd.backDot (windowColour lcd x) := by
  obtain ⟨shows, left⟩ := (lcd.inWindow_iff x).mp inside
  unfold overlayWindow
  simp only [shows, left, if_true, Vector.getElem_mapFinIdx, lcd.windowColour_eq hx inside]

theorem overlayWindow_outside (under : Line BackDot) (hx : x < Screen.width)
    (outside : ¬ InWindow lcd x) : (lcd.overlayWindow under)[x] = under[x] := by
  unfold overlayWindow
  split
  · next shows =>
      have right : ¬ lcd.windowX.toNat ≤ x + 7 := fun left =>
        outside ((lcd.inWindow_iff x).mpr ⟨shows, left⟩)
      simp only [right, if_false, Vector.getElem_mapFinIdx]
  · rfl

/-- The line under the sprites has the colour and the pixel on the ground at every column. -/
theorem ground_getElem (hx : x < Screen.width) :
    (lcd.overlayWindow lcd.backgroundLine)[x] = ⟨groundColour lcd x, groundPixel lcd x⟩ := by
  unfold groundPixel groundColour
  by_cases inside : InWindow lcd x
  · rw [lcd.overlayWindow_inside _ hx inside, backDot, shadeOf_eq]
    simp only [inside, true_or, if_true]
  · rw [lcd.overlayWindow_outside _ hx inside, lcd.backgroundLine_getElem hx, backDot, shadeOf_eq]
    simp only [inside, false_or, if_false]
    split <;> rfl

end Ground

section Sprites

variable (lcd : Lcd) (s : Sprite)

theorem sprites_eq : lcd.oam.sprites = (List.range 40).map (spriteAt lcd) := by
  apply List.map_congr_left
  intro i member
  have inside : i < 40 := List.mem_range.mp member
  have start : i % Oam.spriteCount * 4 = 4 * i := by
    unfold Oam.spriteCount
    omega
  have byte (k : Nat) (small : k < 4) : Memory.read lcd.oam (4 * i + k) = oamByte lcd (4 * i + k) := by
    rw [Memory.read, oamByte, Nat.mod_eq_of_lt (by omega)]
  simp only [Oam.sprite, start, spriteAt, byte 1 (by decide), byte 2 (by decide), byte 3 (by decide)]
  exact congrArg (Sprite.mk · _ _ _) (byte 0 (by decide))

theorem flipY_eq : s.flipY = flag s 6 := rfl

theorem flipX_eq : s.flipX = flag s 5 := rfl

theorem spriteHeight_eq : (lcd.spriteHeight : Int) = if controlBit lcd 2 then 16 else 8 := by
  rw [spriteHeight, control_bit]
  split <;> rfl

/-- Both tiles of a tall sprite together are its rows one after the other. -/
theorem spriteTile_place {row : Nat} (inside : row < lcd.spriteHeight) :
    16 * lcd.spriteTile s row + 2 * (row % 8) =
        16 * (if controlBit lcd 2 then s.tile.toNat - s.tile.toNat % 2 else s.tile.toNat) +
          2 * row ∧
      lcd.spriteTile s row < Vram.tileCount := by
  have byte := s.tile.toNat_lt
  unfold spriteTile Vram.tileCount
  cases tall : controlBit lcd 2 with
  | true =>
      simp only [spriteHeight, control_bit, tall, if_true] at inside ⊢
      split <;> omega
  | false =>
      simp only [spriteHeight, control_bit, tall, Bool.false_eq_true, if_false, Nat.reduceEqDiff]
        at inside ⊢
      omega

/-- The row of a sprite that lies on the line at hand, as the rule for pixels counts it. -/
theorem spriteRow?_some {row : Nat} (here : lcd.spriteRow? s = some row) :
    row < lcd.spriteHeight ∧
      (0 ≤ (lcd.line.toNat : Int) - spriteTop s ∧
        (lcd.line.toNat : Int) - spriteTop s < lcd.spriteHeight) ∧
      (if flag s 6 then lcd.spriteHeight - 1 - ((lcd.line.toNat : Int) - spriteTop s)
        else lcd.line.toNat - spriteTop s).toNat = row := by
  unfold spriteRow? at here
  dsimp only at here
  unfold spriteTop
  rw [flipY_eq] at here
  split at here
  · obtain rfl := Option.some.inj here
    cases flag s 6 with
    | true =>
        simp only [if_true]
        omega
    | false =>
        simp only [Bool.false_eq_true, if_false]
        omega
  · cases here

theorem spriteRow?_none (away : lcd.spriteRow? s = none) :
    ¬ (0 ≤ (lcd.line.toNat : Int) - spriteTop s ∧
      (lcd.line.toNat : Int) - spriteTop s < lcd.spriteHeight) := by
  unfold spriteRow? at away
  dsimp only at away
  unfold spriteTop
  split at away
  · cases away
  · omega

theorem spriteColour_away (away : lcd.spriteRow? s = none) (x : Nat) :
    spriteColour lcd s x = clear := by
  have none := lcd.spriteRow?_none s away
  unfold spriteColour
  rw [← lcd.spriteHeight_eq]
  exact if_neg fun here => none ⟨here.1, here.2.1⟩

/-- The colour of a sprite that lies on the line at hand. -/
theorem spriteColour_here {row : Nat} (here : lcd.spriteRow? s = some row) (x : Nat) :
    spriteColour lcd s x =
      if s.x.toNat ≤ x + 8 ∧ x + 8 < s.x.toNat + 8 then
        lcd.vram.colour (lcd.spriteTile s row)
          (if flag s 5 then 7 - (x + 8 - s.x.toNat) else x + 8 - s.x.toNat) row
      else clear := by
  obtain ⟨inside, covers, place⟩ := lcd.spriteRow?_some s here
  obtain ⟨start, known⟩ := lcd.spriteTile_place s inside
  unfold spriteColour
  simp only [← lcd.spriteHeight_eq, covers, true_and, place]
  rw [lcd.colour_eq known, start]
  unfold spriteLeft
  by_cases column : s.x.toNat ≤ x + 8 ∧ x + 8 < s.x.toNat + 8
  · have signed : 0 ≤ (x : Int) - (s.x.toNat - 8) ∧ (x : Int) - (s.x.toNat - 8) < 8 := by omega
    rw [if_pos column, if_pos signed]
    apply congrArg
    cases flag s 5 with
    | true =>
        simp only [if_true]
        omega
    | false =>
        simp only [Bool.false_eq_true, if_false]
        omega
  · rw [if_neg column, if_neg (by omega)]

end Sprites

section Owners

variable (lcd : Lcd)

/-- The owner of a column after a sprite has laid claim to it. -/
def claimed (owner : Option ObjectDot) (dot : ObjectDot) : Option ObjectDot :=
  match owner with
  | some held => if dot.colour = clear ∨ held.x ≤ dot.x then some held else some dot
  | none => if dot.colour = clear then none else some dot

theorem claimed_transparent (owner : Option ObjectDot) {dot : ObjectDot} (h : dot.colour = clear) :
    claimed owner dot = owner := by
  cases owner with
  | none => exact if_pos h
  | some held => exact if_pos (Or.inl h)

theorem claimed_kept {held dot : ObjectDot} (h : held.x ≤ dot.x) :
    claimed (some held) dot = some held :=
  if_pos (Or.inr h)

theorem claimed_taken {held dot : ObjectDot} (visible : dot.colour ≠ clear) (h : ¬ held.x ≤ dot.x) :
    claimed (some held) dot = some dot :=
  if_neg (not_or.mpr ⟨visible, h⟩)

/-- What a sprite shows at a column of the line at hand. -/
def objectDot (s : Sprite) (x : Nat) : ObjectDot :=
  { x := s.x
    colour := spriteColour lcd s x
    second := flag s 4
    below := flag s 7 }

/-- A pixel of a sprite on the screen lays claim to its own column. -/
theorem claimColumn_here (s : Sprite) (row : Nat) (owners : Line (Option ObjectDot)) {px x : Nat}
    (hx : x < Screen.width) (here : s.x.toNat + px = x + 8) :
    lcd.claimColumn s row owners px =
      owners.set x (claimed owners[x]
        ⟨s.x, lcd.vram.colour (lcd.spriteTile s row) (if flag s 5 then 7 - px else px) row,
          flag s 4, flag s 7⟩) := by
  have column : s.x.toNat + px - 8 = x := by omega
  have onScreen : 8 ≤ s.x.toNat + px ∧ s.x.toNat + px - 8 < Screen.width := by omega
  have owner : owners.get ⟨x, hx⟩ = owners[x] := rfl
  unfold claimColumn
  rw [dif_pos onScreen]
  rw [flipX_eq]
  simp only [column, owner]
  generalize lcd.vram.colour (lcd.spriteTile s row) (if flag s 5 then 7 - px else px) row = colour
  have kept : owners.set x owners[x] = owners := Vector.set_getElem_self hx
  have transparent : colour.val = 0 ↔ colour = clear := val_eq_zero_iff
  cases before : owners[x] with
  | none =>
      rw [before] at kept
      simp only [claimed, Bool.or_false, decide_eq_true_iff, transparent]
      split
      · exact kept.symm
      · rfl
  | some held =>
      rw [before] at kept
      simp only [claimed, Bool.or_eq_true, decide_eq_true_iff, transparent]
      split
      · exact kept.symm
      · rfl

theorem claimColumn_away (s : Sprite) (row : Nat) (owners : Line (Option ObjectDot)) {px x : Nat}
    (hx : x < Screen.width) (away : s.x.toNat + px ≠ x + 8) :
    (lcd.claimColumn s row owners px)[x] = owners[x] := by
  by_cases onScreen : 8 ≤ s.x.toNat + px ∧ s.x.toNat + px - 8 < Screen.width
  · have other : s.x.toNat + px - 8 ≠ x := by omega
    rw [lcd.claimColumn_here s row owners onScreen.2 (by omega), Vector.getElem_set_ne _ hx other]
  · unfold claimColumn
    rw [dif_neg onScreen]

/-- The first pixels of a row of a sprite lay claim to their columns, each to its own. -/
theorem foldl_claimColumn (s : Sprite) (row : Nat) (owners : Line (Option ObjectDot)) (count : Nat)
    {x : Nat} (hx : x < Screen.width) :
    ((List.range count).foldl (lcd.claimColumn s row) owners)[x] =
      if s.x.toNat ≤ x + 8 ∧ x + 8 < s.x.toNat + count then
        claimed owners[x] ⟨s.x, lcd.vram.colour (lcd.spriteTile s row)
          (if flag s 5 then 7 - (x + 8 - s.x.toNat) else x + 8 - s.x.toNat) row,
          flag s 4, flag s 7⟩
      else owners[x] := by
  induction count with
  | zero =>
      have none : ¬ (s.x.toNat ≤ x + 8 ∧ x + 8 < s.x.toNat + 0) := by omega
      rw [if_neg none]
      rfl
  | succ count ih =>
      rw [List.range_succ, List.foldl_append, List.foldl_cons, List.foldl_nil]
      by_cases here : s.x.toNat + count = x + 8
      · have before : ¬ (s.x.toNat ≤ x + 8 ∧ x + 8 < s.x.toNat + count) := by omega
        have now : s.x.toNat ≤ x + 8 ∧ x + 8 < s.x.toNat + (count + 1) := by omega
        have px : x + 8 - s.x.toNat = count := by omega
        rw [if_neg before] at ih
        rw [lcd.claimColumn_here s row _ hx here, Vector.getElem_set_self, ih, if_pos now, px]
      · have same : (s.x.toNat ≤ x + 8 ∧ x + 8 < s.x.toNat + (count + 1)) ↔
            (s.x.toNat ≤ x + 8 ∧ x + 8 < s.x.toNat + count) := by omega
        rw [lcd.claimColumn_away s row _ hx here, ih]
        simp only [same]

/-- A sprite lays claim to every column with what it shows there. -/
theorem claimSprite_getElem (s : Sprite) (owners : Line (Option ObjectDot)) {x : Nat}
    (hx : x < Screen.width) :
    (lcd.claimSprite owners s)[x] = claimed owners[x] (objectDot lcd s x) := by
  unfold claimSprite objectDot
  cases here : lcd.spriteRow? s with
  | none => exact (claimed_transparent _ (lcd.spriteColour_away s here x)).symm
  | some row =>
      dsimp only
      rw [lcd.foldl_claimColumn s row owners 8 hx, lcd.spriteColour_here s here x]
      split
      · rfl
      · exact (claimed_transparent _ rfl).symm

/-- The owner of a column is the sprite that leads there among the first so many. -/
def Owned (count x : Nat) : Option ObjectDot → Prop
  | none => ∀ i < count, ¬ Opaque lcd x i
  | some dot => ∃ i, Leads lcd count x i ∧ dot = objectDot lcd (spriteAt lcd i) x

variable {lcd} {count x : Nat}

/-- A sprite that is transparent at a column leaves it to its owner. -/
theorem Owned.transparent {owner : Option ObjectDot} (h : Owned lcd count x owner)
    (clear : ¬ Opaque lcd x count) : Owned lcd (count + 1) x owner := by
  cases owner with
  | none =>
      intro i inside
      rcases Nat.lt_succ_iff_lt_or_eq.mp inside with earlier | rfl
      · exact h i earlier
      · exact clear
  | some dot =>
      obtain ⟨i, leads, rfl⟩ := h
      exact ⟨i, leads.succ fun visible => absurd visible clear, rfl⟩

/-- An opaque sprite takes the column if it goes before the owner, or if there is none. -/
theorem Owned.visible {owner : Option ObjectDot} (h : Owned lcd count x owner)
    (visible : Opaque lcd x count) :
    Owned lcd (count + 1) x (claimed owner (objectDot lcd (spriteAt lcd count) x)) := by
  cases owner with
  | none =>
      have taken : claimed none (objectDot lcd (spriteAt lcd count) x) =
          some (objectDot lcd (spriteAt lcd count) x) := if_neg visible
      rw [taken]
      exact ⟨count, leads_next visible fun j earlier visible' => absurd visible' (h j earlier), rfl⟩
  | some dot =>
      obtain ⟨i, leads, rfl⟩ := h
      by_cases kept : (spriteAt lcd i).x ≤ (spriteAt lcd count).x
      · have held : (objectDot lcd (spriteAt lcd i) x).x ≤
            (objectDot lcd (spriteAt lcd count) x).x := kept
        rw [claimed_kept held]
        exact ⟨i, leads.succ fun _ => before_of_le kept (Nat.le_of_lt leads.1), rfl⟩
      · have less : (spriteAt lcd count).x.toNat < (spriteAt lcd i).x.toNat := by
          rw [UInt8.le_iff_toNat_le] at kept
          omega
        have solid : (objectDot lcd (spriteAt lcd count) x).colour ≠ clear := visible
        rw [claimed_taken solid kept]
        refine ⟨count, leads_next visible ?_, rfl⟩
        intro j earlier visible'
        rcases leads.2.2 j earlier visible' with less' | ⟨same, -⟩
        · exact Or.inl (Nat.lt_trans less less')
        · exact Or.inl (same ▸ less)

theorem Owned.claimed {owner : Option ObjectDot} (h : Owned lcd count x owner) :
    Owned lcd (count + 1) x (claimed owner (objectDot lcd (spriteAt lcd count) x)) := by
  by_cases visible : Opaque lcd x count
  · exact h.visible visible
  · have transparent : (objectDot lcd (spriteAt lcd count) x).colour = clear :=
      Classical.not_not.mp visible
    rw [claimed_transparent owner transparent]
    exact h.transparent visible

/-- After any number of sprites each column is owned by the one of them that leads there. -/
theorem foldl_claimSprite_owned (count : Nat) (hx : x < Screen.width) :
    Owned lcd count x
      ((((List.range count).map (spriteAt lcd)).foldl lcd.claimSprite
        (Vector.replicate Screen.width none))[x]) := by
  induction count with
  | zero =>
      have none : (Vector.replicate Screen.width (none : Option ObjectDot))[x] = none :=
        Vector.getElem_replicate hx
      rw [List.range_zero, List.map_nil, List.foldl_nil, none]
      intro i inside
      exact absurd inside (Nat.not_lt_zero i)
  | succ count ih =>
      rw [List.range_succ, List.map_append, List.foldl_append, List.map_singleton,
        List.foldl_cons, List.foldl_nil, claimSprite_getElem lcd _ _ hx]
      exact ih.claimed

theorem columnOwners_owned (hx : x < Screen.width) : Owned lcd 40 x lcd.columnOwners[x] := by
  simp only [columnOwners, sprites_eq]
  exact foldl_claimSprite_owned 40 hx

theorem columnOwners_getElem (hx : x < Screen.width) :
    lcd.columnOwners[x] =
      (leader? lcd x).map fun i => objectDot lcd (spriteAt lcd i) x := by
  have owned : Owned lcd 40 x lcd.columnOwners[x] := columnOwners_owned hx
  cases owner : lcd.columnOwners[x] with
  | none =>
      rw [owner] at owned
      cases leader : leader? lcd x with
      | none => rfl
      | some i =>
          obtain ⟨inside, visible, -⟩ := (leader?_eq_some_iff lcd).mp leader
          exact absurd visible (owned i inside)
  | some dot =>
      rw [owner] at owned
      obtain ⟨i, leads, rfl⟩ := owned
      rw [(leader?_eq_some_iff lcd).mpr leads]
      rfl

/-- Where some sprite is opaque there is one that leads. -/
theorem leader?_eq_none_iff (hx : x < Screen.width) :
    leader? lcd x = none ↔ ∀ i < 40, ¬ Opaque lcd x i := by
  have owned : Owned lcd 40 x lcd.columnOwners[x] := columnOwners_owned hx
  rw [columnOwners_getElem hx] at owned
  constructor
  · intro none
    rw [none] at owned
    exact owned
  · intro clear
    cases leader : leader? lcd x with
    | none => rfl
    | some i =>
        obtain ⟨inside, visible, -⟩ := (leader?_eq_some_iff lcd).mp leader
        exact absurd visible (clear i inside)

end Owners

section Line

variable (lcd : Lcd) {x : Nat}

theorem mergeDot_eq (ground : BackDot) (s : Sprite) :
    lcd.mergeDot ground (some (objectDot lcd s x)) =
      if flag s 7 = true ∧ ground.colour ≠ clear then ground.pixel else spritePixel lcd s x := by
  have solid : ground.colour.val ≠ 0 ↔ ground.colour ≠ clear := not_congr val_eq_zero_iff
  simp only [mergeDot, objectDot, Bool.and_eq_true, bne_iff_ne, solid, shadeOf_eq]
  rfl

/-- The line that is drawn has at each column the pixel of the rule. -/
theorem composeLine_getElem (hx : x < Screen.width) : lcd.composeLine[x] = pixel lcd x := by
  have ground := lcd.ground_getElem hx
  have owner : lcd.columnOwners[x] =
      (leader? lcd x).map fun i => objectDot lcd (spriteAt lcd i) x :=
    columnOwners_getElem hx
  unfold composeLine pixel
  cases enabled : controlBit lcd 1 with
  | false =>
      simp only [spritesEnabled, control_bit, enabled, Bool.false_eq_true, if_false,
        Vector.getElem_map, ground]
  | true =>
      simp only [spritesEnabled, control_bit, enabled, if_true, Vector.getElem_zipWith, ground,
        owner]
      cases leader? lcd x with
      | none => rfl
      | some i => exact lcd.mergeDot_eq _ _

end Line

end Lcd

namespace Bitmap

variable {width height : Nat} (b : Bitmap width height)

theorem get_eq_row {y : Nat} (inside : y < height) (x : Nat) :
    b.get x y = (b.row y)[x]?.getD .outside := by
  have size := b.size_row inside
  by_cases hx : x < width
  · have within : x < (b.row y).size := by omega
    rw [get, dif_pos ⟨hx, inside⟩, Array.getElem?_eq_getElem within, Option.getD_some]
    simp only [row, Array.getElem_extract, Vector.getElem_toArray]
  · have past : (b.row y).size ≤ x := by omega
    rw [get, dif_neg fun within => hx within.1, Array.getElem?_eq_none past, Option.getD_none]

theorem get_setRow {y : Nat} (inside : y < height) (pixels : Vector Pixel width) {x : Nat}
    (hx : x < width) : (b.setRow y pixels).get x y = pixels[x] := by
  have within : x < pixels.toArray.size := by rwa [pixels.size_toArray]
  rw [get_eq_row _ inside, row_setRow b inside pixels, Array.getElem?_eq_getElem within,
    Option.getD_some, Vector.getElem_toArray]

theorem get_setRow_of_ne {y other : Nat} (apart : other ≠ y) (pixels : Vector Pixel width) (x : Nat) :
    (b.setRow y pixels).get x other = b.get x other := by
  by_cases inside : other < height
  · rw [get_eq_row _ inside, get_eq_row _ inside, row_setRow_of_ne b inside apart pixels]
  · have past : ¬ (x < width ∧ other < height) := fun within => inside within.2
    rw [get, get, dif_neg past, dif_neg past]

end Bitmap

namespace Lcd

/-- Drawing a line composes it pixel by pixel: the background, the window over it, and over or under
these the opaque sprite pixel whose sprite goes before all others by its coordinate and its number. The
rows above and below, the frame that is shown and all else stay as they were. -/
theorem drawLine_composes (lcd : Lcd) (onScreen : lcd.line.toNat ≤ 143) :
    (∀ x < 160, lcd.drawLine.drawn.get x lcd.line.toNat = pixel lcd x) ∧
    (∀ x < 160,
      (∀ i, leader? lcd x = some i ↔ Leads lcd 40 x i) ∧
      (leader? lcd x = none ↔ ∀ i < 40, ¬ Opaque lcd x i)) ∧
    (∀ x y, y ≠ lcd.line.toNat → lcd.drawLine.drawn.get x y = lcd.drawn.get x y) ∧
    lcd.drawLine = { lcd with drawn := lcd.drawLine.drawn } := by
  have onScreen : lcd.line.toNat < Screen.height := Nat.lt_succ_of_le onScreen
  have drawn := drawLine_drawn onScreen
  refine ⟨?_, ?_, ?_, ?_⟩
  · intro x hx
    have hx : x < Screen.width := hx
    rw [drawn, Bitmap.get_setRow _ onScreen _ hx, lcd.composeLine_getElem hx]
  · intro x hx
    exact ⟨fun i => leader?_eq_some_iff lcd, leader?_eq_none_iff hx⟩
  · intro x y apart
    rw [drawn, Bitmap.get_setRow_of_ne _ apart]
  · unfold drawLine
    split <;> rfl

/-- A scene with a striped background, a window on the right and five sprites on one line, under three
palettes of which each gives the third colour another shade. The first two sprites are at the same place;
the third begins to the left of them, and gives way to the background as the first one does; the last two
show the same tile under either palette for sprites. -/
def crowded : Lcd :=
  { initial with
    control := 0xE3
    line := 10
    scrollX := 250
    scrollY := 3
    windowX := 107
    windowY := 8
    bgPalette := 0xE4
    objPalette0 := 0x1B
    objPalette1 := 0x39
    vram := [(0x100A, 0xF0), (0x100B, 0x08), (0x20, 0xFF), (0x31, 0xFF), (0x40, 0x0F),
        (0x1C00, 0x80), (0x0804, 0xFF), (0x0805, 0xFF)].foldl
      (fun vram (offset, value) => Memory.write vram offset value) (Memory.zeros _)
    oam := Memory.ofArray _ #[26, 20, 2, 0x80, 26, 20, 3, 0x00, 26, 18, 4, 0x80, 26, 60, 3, 0x10,
      26, 80, 3, 0x00] }

/-- The first sprite has column 12, where the background has colour 0, and the third one has column 14,
where it does not. The third colour has a shade of its own on the background, in column 2, and in each of
the last two sprites. The window begins in column 100. -/
theorem drawLine_composes_crowded :
    crowded.line.toNat ≤ 143 ∧ Leads crowded 40 12 0 ∧ Leads crowded 40 14 2 ∧
      [2, 12, 14, 52, 72, 99, 100].map (crowded.drawLine.drawn.get · 10) =
        [⟨.background, .medium⟩, ⟨.object0, .medium⟩, ⟨.background, .light⟩, ⟨.object1, .dark⟩,
          ⟨.object0, .light⟩, ⟨.background, .white⟩, ⟨.background, .dark⟩] ∧
      crowded.drawLine.drawn.get 14 11 = ⟨.background, .white⟩ := by
  have onScreen : crowded.line.toNat ≤ 143 := by decide
  obtain ⟨row, leaders, others, -⟩ := crowded.drawLine_composes onScreen
  have computed : (leader? crowded 12 = some 0 ∧ leader? crowded 14 = some 2) ∧
      [2, 12, 14, 52, 72, 99, 100].map (pixel crowded) =
        [⟨.background, .medium⟩, ⟨.object0, .medium⟩, ⟨.background, .light⟩, ⟨.object1, .dark⟩,
          ⟨.object0, .light⟩, ⟨.background, .white⟩, ⟨.background, .dark⟩] := by decide +kernel
  obtain ⟨⟨first, third⟩, pixels⟩ := computed
  refine ⟨onScreen, ?_, ?_, ?_, ?_⟩
  · exact ((leaders 12 (by decide)).1 0).mp first
  · exact ((leaders 14 (by decide)).1 2).mp third
  · rw [← pixels]
    apply List.map_congr_left
    intro x member
    exact row x (by revert x; decide)
  · have before : crowded.drawn.get 14 11 = ⟨.background, .white⟩ := by decide +kernel
    exact (others 14 11 (by decide)).trans before

end Lcd

end DotMatrix
