import Hezarfen.MealCalls
import Mathlib.Tactic.Linarith

/-!
# The price a claim freezes

A booking reads the menu with its revision, then the prices of its dishes, and
takes the seat only at that revision.  Every dish write bumps the revision of its
menu, so within one publication of a menu an unmoved revision means unmoved
prices.  The revision restarts at zero when the menu is deleted and published
again under the same derived id, and then the guard compares the revisions of two
different menus.
-/

namespace Hezarfen.Meal

open Interleaving

variable {s s' : Db} {fresh : Menu} {dish : MenuDish} {id : MenuDishId} {menu : MenuId}
  {row : MenuRow} {p : Point} {w : World}

structure PriceInvariant (s : Db) : Prop where
  menuKey : ∀ id row, s.menu.lookup id = some row →
    row.menu.id = id ∧ row.menu.publication < s.publications
  dishKey : ∀ id dish, s.menuDish.lookup id = some dish →
    dish.id = id ∧ id.uuid ∈ s.minted

theorem priceInvariant_empty : PriceInvariant Db.empty := by
  constructor <;> simp [Db.empty]

structure Forward (s s' : Db) : Prop where
  publications : s.publications ≤ s'.publications
  minted : ∀ uuid ∈ s.minted, uuid ∈ s'.minted
  menus : ∀ id row', s'.menu.lookup id = some row' →
    row'.menu.publication < s.publications →
    ∃ row, s.menu.lookup id = some row ∧ row.menu.publication = row'.menu.publication ∧
      row.menu.getVersion ≤ row'.menu.getVersion ∧
      (row.menu.getVersion = row'.menu.getVersion → s'.dishTotal id = s.dishTotal id)
  dishes : ∀ id dish', s'.menuDish.lookup id = some dish' →
    (∃ dish, s.menuDish.lookup id = some dish ∧ dish.menu = dish'.menu) ∨
      id.uuid ∉ s.minted

/-! ## What the calls read -/

structure MenuSeen (s : Db) (fresh : Menu) : Prop where
  published : fresh.publication < s.publications
  version : ∀ row, s.menu.lookup fresh.id = some row →
    row.menu.publication = fresh.publication → fresh.getVersion ≤ row.menu.getVersion

structure PriceSeen (s : Db) (fresh : Menu) (price : Option LedgerAmount) : Prop
    extends MenuSeen s fresh where
  price : ∀ row, s.menu.lookup fresh.id = some row →
    row.menu.publication = fresh.publication → row.menu.getVersion = fresh.getVersion →
    LedgerAmount.minorOf price = s.dishTotal fresh.id

/-- A dish never changes its menu. -/
structure DishSeen (s : Db) (dish : MenuDish) : Prop where
  minted : dish.id.uuid ∈ s.minted
  menu : ∀ stored, s.menuDish.lookup dish.id = some stored → stored.menu = dish.menu

theorem MenuSeen.mono
    (h : MenuSeen s fresh) (hforward : Forward s s') :
    MenuSeen s' fresh where
  published := h.published.trans_le hforward.publications
  version := by
    intro row' hrow' hpublication
    obtain ⟨row, hrow, hsame, hle, -⟩ :=
      hforward.menus _ row' hrow' (hpublication ▸ h.published)
    exact (h.version row hrow (hsame.trans hpublication)).trans hle

theorem PriceSeen.mono
    {price : Option LedgerAmount} (h : PriceSeen s fresh price) (hforward : Forward s s') :
    PriceSeen s' fresh price where
  toMenuSeen := h.toMenuSeen.mono hforward
  price := by
    intro row' hrow' hpublication hversion
    obtain ⟨row, hrow, hsame, hle, htotal⟩ :=
      hforward.menus _ row' hrow' (hpublication ▸ h.published)
    have hpublication' := hsame.trans hpublication
    have hge := h.version row hrow hpublication'
    rw [htotal (by omega)]
    exact h.price row hrow hpublication' (by omega)

theorem DishSeen.mono
    (h : DishSeen s dish) (hforward : Forward s s') :
    DishSeen s' dish where
  minted := hforward.minted _ h.minted
  menu := by
    intro stored' hstored'
    obtain ⟨stored, hstored, hmenu⟩ | hfresh := hforward.dishes _ stored' hstored'
    · rw [← hmenu]
      exact h.menu stored hstored
    · exact absurd h.minted hfresh

theorem dishTotal_congr
    (h : s'.menuDish = s.menuDish) (menu : MenuId) :
    s'.dishTotal menu = s.dishTotal menu := by
  simp [Db.dishTotal, h]

theorem dishTotal_insert_ne
    (hdishes : s'.menuDish = s.menuDish.insert id dish)
    (hsame : ∀ stored, s.menuDish.lookup id = some stored → stored.menu = dish.menu)
    (hne : menu ≠ dish.menu) :
    s'.dishTotal menu = s.dishTotal menu := by
  have hsum := Table.sum_insert s.menuDish id dish fun _ dish =>
    if dish.menu = menu then dish.priceMinor.asMinor else 0
  have hold : (s.menuDish.lookup id).elim 0 (fun dish =>
      if dish.menu = menu then dish.priceMinor.asMinor else 0) = 0 := by
    cases hstored : s.menuDish.lookup id with
    | none => rfl
    | some stored => simp [hsame stored hstored, hne.symm]
  unfold Db.dishTotal
  rw [hdishes]
  simp only [hold, if_neg hne.symm, add_zero, zero_add] at hsum
  exact hsum

theorem dishTotal_erase_ne
    {stored : MenuDish} (hdishes : s'.menuDish = s.menuDish.erase id)
    (hstored : s.menuDish.lookup id = some stored) (hne : menu ≠ stored.menu) :
    s'.dishTotal menu = s.dishTotal menu := by
  have hsum := Table.sum_erase s.menuDish id fun _ dish =>
    if dish.menu = menu then dish.priceMinor.asMinor else 0
  unfold Db.dishTotal
  rw [hdishes]
  simpa [hstored, hne.symm] using hsum

theorem dishTotal_deleteWhere_ne
    {other : MenuId} (hdishes : s'.menuDish =
      Table.deleteWhere s.menuDish fun _ dish => dish.menu = menu) (hne : other ≠ menu) :
    s'.dishTotal other = s.dishTotal other := by
  unfold Db.dishTotal
  rw [hdishes, Table.sum_deleteWhere]
  apply Table.sum_congr
  intro id dish _
  by_cases hother : dish.menu = other
  · simp [hother, hne]
  · simp [hother]

def DishesKept (s s' : Db) : Prop :=
  ∀ id dish', s'.menuDish.lookup id = some dish' → dish'.id = id ∧ id.uuid ∈ s'.minted ∧
    ((∃ dish, s.menuDish.lookup id = some dish ∧ dish.menu = dish'.menu) ∨
      id.uuid ∉ s.minted)

theorem PriceInvariant.dishesKept
    (hs : PriceInvariant s) (hdishes : s'.menuDish = s.menuDish)
    (hminted : ∀ uuid ∈ s.minted, uuid ∈ s'.minted) :
    DishesKept s s' := by
  intro id dish hdish
  rw [hdishes] at hdish
  obtain ⟨hid, hold⟩ := hs.dishKey id dish hdish
  exact ⟨hid, hminted _ hold, .inl ⟨dish, hdish, rfl⟩⟩

/-- A step that leaves the menus alone. -/
theorem PriceInvariant.of_frame
    (hs : PriceInvariant s) (hmenus : s'.menu = s.menu) (hdishes : s'.menuDish = s.menuDish)
    (hpublications : s'.publications = s.publications)
    (hminted : ∀ uuid ∈ s.minted, uuid ∈ s'.minted) :
    PriceInvariant s' ∧ Forward s s' := by
  have hkept := hs.dishesKept hdishes hminted
  refine ⟨⟨?_, fun id dish h => ⟨(hkept id dish h).1, (hkept id dish h).2.1⟩⟩,
    ⟨hpublications.ge, hminted, ?_, fun id dish h => (hkept id dish h).2.2⟩⟩
  · rw [hmenus, hpublications]
    exact hs.menuKey
  · intro id row hrow _
    rw [hmenus] at hrow
    exact ⟨row, hrow, rfl, le_rfl, fun _ => dishTotal_congr hdishes id⟩

/-- A step that replaces one menu row within its publication.  Dish totals may move only
on that menu, and only if its revision moves. -/
theorem PriceInvariant.replaceRow
    (hs : PriceInvariant s) {row' : MenuRow} (hrow : s.menu.lookup menu = some row)
    (hmenus : s'.menu = s.menu.insert menu row') (hid : row'.menu.id = row.menu.id)
    (hpublication : row'.menu.publication = row.menu.publication)
    (hversion : row.menu.getVersion ≤ row'.menu.getVersion)
    (htotal : ∀ id, (id = menu → row.menu.getVersion = row'.menu.getVersion) →
      s'.dishTotal id = s.dishTotal id) (hpublications : s'.publications = s.publications)
    (hminted : ∀ uuid ∈ s.minted, uuid ∈ s'.minted) (hkept : DishesKept s s') :
    PriceInvariant s' ∧ Forward s s' := by
  refine ⟨⟨?_, fun id dish h => ⟨(hkept id dish h).1, (hkept id dish h).2.1⟩⟩,
    ⟨hpublications.ge, hminted, ?_, fun id dish h => (hkept id dish h).2.2⟩⟩
  · intro id stored hstored
    rw [hmenus, lookup_insert_eq] at hstored
    rw [hpublications]
    split at hstored
    · next heq =>
      cases hstored
      rw [hid, hpublication, heq]
      exact hs.menuKey menu row hrow
    · exact hs.menuKey id stored hstored
  · intro id stored hstored _
    rw [hmenus, lookup_insert_eq] at hstored
    split at hstored
    · next heq =>
      cases hstored
      subst heq
      exact ⟨row, hrow, hpublication.symm, hversion,
        fun hsame => htotal id fun _ => hsame⟩
    · next hne =>
      exact ⟨stored, hstored, rfl, le_rfl, fun _ => htotal id fun h => absurd h hne⟩

theorem PriceInvariant.publish
    (hs : PriceInvariant s) {menu : Menu} (hpublication : menu.publication = s.publications)
    (hmenus : s'.menu = s.menu.insert menu.id ⟨menu, 0⟩)
    (hpublications : s'.publications = s.publications + 1) (hdishes : s'.menuDish = s.menuDish)
    (hminted : s'.minted = s.minted) :
    PriceInvariant s' ∧ Forward s s' := by
  have hgrow : ∀ uuid ∈ s.minted, uuid ∈ s'.minted := fun uuid h => hminted ▸ h
  have hkept := hs.dishesKept hdishes hgrow
  refine ⟨⟨?_, fun id dish h => ⟨(hkept id dish h).1, (hkept id dish h).2.1⟩⟩,
    ⟨by omega, hgrow, ?_, fun id dish h => (hkept id dish h).2.2⟩⟩
  · intro id row hrow
    rw [hmenus, lookup_insert_eq] at hrow
    rw [hpublications]
    split at hrow
    · next heq =>
      cases hrow
      exact ⟨heq.symm, hpublication ▸ Nat.lt_succ_self _⟩
    · obtain ⟨hid, hlt⟩ := hs.menuKey id row hrow
      exact ⟨hid, by omega⟩
  · intro id row hrow hlt
    rw [hmenus, lookup_insert_eq] at hrow
    split at hrow
    · cases hrow
      exact absurd hlt hpublication.ge.not_gt
    · exact ⟨row, hrow, rfl, le_rfl, fun _ => dishTotal_congr hdishes id⟩

theorem PriceInvariant.unpublish
    (hs : PriceInvariant s) (hmenus : s'.menu = s.menu.erase menu) (hdishes : s'.menuDish =
      Table.deleteWhere s.menuDish fun _ dish => dish.menu = menu)
    (hpublications : s'.publications = s.publications) (hminted : s'.minted = s.minted) :
    PriceInvariant s' ∧ Forward s s' := by
  have hdish : ∀ id dish, s'.menuDish.lookup id = some dish →
      s.menuDish.lookup id = some dish := by
    intro id dish h
    rw [hdishes, lookup_deleteWhere] at h
    exact (Option.filter_eq_some_iff.mp h).1
  constructor
  · constructor
    · intro id row hrow
      rw [hmenus, lookup_erase_eq] at hrow
      rw [hpublications]
      split at hrow
      · cases hrow
      · exact hs.menuKey id row hrow
    · intro id dish h
      rw [hminted]
      exact hs.dishKey id dish (hdish id dish h)
  · constructor
    · exact hpublications.ge
    · exact fun uuid h => hminted ▸ h
    · intro id row hrow _
      rw [hmenus, lookup_erase_eq] at hrow
      split at hrow
      · cases hrow
      · next hne =>
        exact ⟨row, hrow, rfl, le_rfl, fun _ => dishTotal_deleteWhere_ne hdishes hne⟩
    · exact fun id dish h => .inl ⟨dish, hdish id dish h, rfl⟩

@[simp]
theorem MenuRow.getVersion_bumped (row : MenuRow) :
    row.bumped.menu.getVersion = row.menu.getVersion + 1 := rfl

theorem PriceInvariant.dishWrite
    (hs : PriceInvariant s) (hrow : s.menu.lookup menu = some row)
    (hmenus : s'.menu = s.menu.insert menu row.bumped)
    (htotal : ∀ id, id ≠ menu → s'.dishTotal id = s.dishTotal id)
    (hpublications : s'.publications = s.publications)
    (hminted : ∀ uuid ∈ s.minted, uuid ∈ s'.minted) (hkept : DishesKept s s') :
    PriceInvariant s' ∧ Forward s s' := by
  refine hs.replaceRow hrow hmenus rfl rfl (by simp) ?_ hpublications hminted hkept
  intro id hsame
  apply htotal id
  intro heq
  have hversion := hsame heq
  rw [MenuRow.getVersion_bumped] at hversion
  omega

theorem PriceInvariant.seatWrite
    (hs : PriceInvariant s) (seats : ℤ) (hrow : s.menu.lookup menu = some row)
    (hmenus : s'.menu = s.menu.insert menu { row with seatsBooked := seats })
    (hdishes : s'.menuDish = s.menuDish) (hpublications : s'.publications = s.publications)
    (hminted : s'.minted = s.minted) :
    PriceInvariant s' ∧ Forward s s' := by
  have hgrow : ∀ uuid ∈ s.minted, uuid ∈ s'.minted := fun uuid h => hminted ▸ h
  exact hs.replaceRow hrow hmenus rfl rfl le_rfl (fun id _ => dishTotal_congr hdishes id)
    hpublications hgrow (hs.dishesKept hdishes hgrow)

def Point.PriceSound (s : Db) : Point → Prop
  | .bookRow args _ fresh | .bookPrice args _ fresh _ =>
      fresh.id = args.menu ∧ MenuSeen s fresh
  | .bookClaim args _ fresh _ price => fresh.id = args.menu ∧ PriceSeen s fresh price
  | .updateDish dish _ | .deleteDish dish => DishSeen s dish
  | _ => True

theorem Point.PriceSound.mono
    (h : p.PriceSound s) (hforward : Forward s s') :
    p.PriceSound s' := by
  cases p with
  | bookRow | bookPrice | bookClaim => exact ⟨h.1, h.2.mono hforward⟩
  | updateDish | deleteDish => exact DishSeen.mono h hforward
  | _ => trivial

theorem PriceInvariant.write
    (hs : PriceInvariant s) {n : Reply} (hp : p.PriceSound s) (h : Writes s w p s' n) :
    PriceInvariant s' ∧ Forward s s' := by
  have hsame : PriceInvariant s ∧ Forward s s := hs.of_frame rfl rfl rfl fun _ h => h
  cases h with
  | claim h =>
      obtain ⟨rfl, -⟩ | ⟨m, old, hmenu, -, -, -, -, -, -, rfl⟩ |
        ⟨m, booking, hmenu, -, -, -, -, -, -, rfl⟩ := claimAndPlace_cases h
      · exact hsame
      · exact hs.seatWrite _ hmenu rfl rfl rfl rfl
      · exact hs.seatWrite _ hmenu rfl rfl rfl rfl
  | @release args fresh r s' h =>
      obtain ⟨-, rfl⟩ | ⟨row, -, -, -, -, rfl⟩ := releaseSeat_cases h
      · exact hsame
      · cases hmenu : s.menu.lookup fresh.menu with
        | none => exact hs.of_frame (by simp [giveBackSeat, hmenu]) rfl rfl fun _ h => h
        | some m =>
            exact hs.seatWrite (max (m.seatsBooked - 1) 0) hmenu
              (by simp [giveBackSeat, hmenu]) rfl rfl rfl
  | append => exact hs.of_frame rfl rfl rfl fun _ h => h
  | credit => exact hs.of_frame rfl rfl rfl fun _ h => List.mem_cons_of_mem _ h
  | createMenu h =>
      obtain ⟨-, rfl⟩ | ⟨menu, refs, -, -, hpublication, -, rfl⟩ := createMenu_cases h
      · exact hsame
      · exact hs.publish hpublication rfl rfl rfl rfl
  | updateMenu h =>
      obtain rfl | ⟨row, cap, hrow, rfl⟩ := updateMenu_cases h
      · exact hsame
      · refine hs.replaceRow hrow rfl rfl rfl ?_ (fun id _ => rfl) rfl (fun _ h => h)
          (hs.dishesKept rfl fun _ h => h)
        simp [Menu.getVersion]
  | deleteMenu h =>
      obtain rfl | ⟨row, -, -, rfl⟩ := deleteMenu_cases h
      · exact hsame
      · exact hs.unpublish rfl rfl rfl rfl
  | @createDish args r s' hfresh h =>
      obtain rfl | ⟨row, hrow, rfl⟩ := createDish_cases h
      · exact hsame
      · have habsent : s.menuDish.lookup (newDish w args).id = none := by
          cases hdish : s.menuDish.lookup (newDish w args).id with
          | none => rfl
          | some dish => exact absurd (hs.dishKey _ dish hdish).2 hfresh
        refine hs.dishWrite hrow rfl ?_ rfl (fun _ h => List.mem_cons_of_mem _ h) ?_
        · intro id hne
          refine dishTotal_insert_ne rfl ?_ hne
          intro stored hstored
          rw [habsent] at hstored
          cases hstored
        · intro id dish hdish
          obtain ⟨rfl, rfl⟩ | ⟨-, hdish⟩ := insert_cases hdish
          · exact ⟨rfl, List.mem_cons_self, .inr hfresh⟩
          · obtain ⟨hid, hold⟩ := hs.dishKey id dish hdish
            exact ⟨hid, List.mem_cons_of_mem _ hold, .inl ⟨dish, hdish, rfl⟩⟩
  | @updateDish dish patch r s' h =>
      obtain rfl | ⟨row, stored, hrow, hstored, rfl⟩ := updateDish_cases h
      · exact hsame
      · have hmenu : stored.menu = dish.menu := hp.menu stored hstored
        refine hs.dishWrite hrow rfl ?_ rfl (fun _ h => h) ?_
        · intro id hne
          refine dishTotal_insert_ne rfl ?_ (hmenu ▸ hne)
          intro stored' hstored'
          obtain rfl : stored = stored' := by simpa [hstored] using hstored'
          rfl
        · intro id dish' hdish'
          obtain ⟨rfl, rfl⟩ | ⟨-, hdish'⟩ := insert_cases hdish'
          · exact ⟨(hs.dishKey _ stored hstored).1, hp.minted, .inl ⟨stored, hstored, rfl⟩⟩
          · obtain ⟨hid, hold⟩ := hs.dishKey id dish' hdish'
            exact ⟨hid, hold, .inl ⟨dish', hdish', rfl⟩⟩
  | @deleteDish dish r s' h =>
      obtain rfl | ⟨row, stored, hrow, hstored, rfl⟩ := deleteDish_cases h
      · exact hsame
      · have hmenu : stored.menu = dish.menu := hp.menu stored hstored
        refine hs.dishWrite hrow rfl ?_ rfl (fun _ h => h) ?_
        · intro id hne
          exact dishTotal_erase_ne rfl hstored (hmenu ▸ hne)
        · intro id dish' hdish'
          obtain ⟨-, hdish'⟩ := erase_cases hdish'
          obtain ⟨hid, hold⟩ := hs.dishKey id dish' hdish'
          exact ⟨hid, hold, .inl ⟨dish', hdish', rfl⟩⟩

theorem PriceInvariant.next
    (hs : PriceInvariant s) {n : Reply} (hp : p.PriceSound s) (h : next s p w = some (s', n)) :
    PriceInvariant s' ∧ Forward s s' := by
  obtain rfl | hwrites := next_cases h
  · exact hs.of_frame rfl rfl rfl fun _ h => h
  · exact hs.write hp hwrites

theorem PriceInvariant.menuSeen
    (hs : PriceInvariant s) {id : MenuId} (hread : s.readMenu id = some fresh) :
    fresh.id = id ∧ MenuSeen s fresh := by
  obtain ⟨row, hrow, rfl⟩ := Option.map_eq_some_iff.mp hread
  obtain ⟨hid, hpublished⟩ := hs.menuKey id row hrow
  refine ⟨hid, hpublished, ?_⟩
  intro row' hrow' _
  rw [hid, hrow] at hrow'
  cases hrow'
  exact le_rfl

theorem PriceInvariant.dishSeen
    (hs : PriceInvariant s) (hread : s.readDish id = some dish) :
    DishSeen s dish := by
  obtain ⟨hid, hminted⟩ := hs.dishKey id dish hread
  subst hid
  refine ⟨hminted, ?_⟩
  intro stored hstored
  obtain rfl : dish = stored := by simpa [Db.readDish, hstored] using hread.symm
  rfl

theorem priceSound_arrives
    (hs : PriceInvariant s) (hforward : Forward s s') {q : Point} (hp : p.PriceSound s)
    (h : Arrives s s' w p q) :
    q.PriceSound s' := by
  apply Point.PriceSound.mono _ hforward
  cases h with
  | idle hidle =>
      cases q with
      | bookMenu | bookHeld | bookFull | cancelLost | deleteMenuRefused => trivial
      | _ => cases hidle
  | bookRow hread => exact hs.menuSeen hread
  | bookPrice => exact hp
  | bookClaim hprice =>
      refine ⟨hp.1, hp.2, ?_⟩
      intro row hrow _ _
      rw [Db.priceSnapshot_eq_ok hprice, hp.1]
  | updateDish hread | deleteDish hread => exact hs.dishSeen hread
  | _ => trivial

theorem price_relyGuarantee :
    machine.RelyGuarantee (fun _ _ => True) PriceInvariant
      (fun _ p s => p.PriceSound s) where
  entry := by
    intro id request s hs
    cases request <;> trivial
  own := by
    intro c id w p s n hc hguard hp hnext
    obtain ⟨hs, hforward⟩ := hc.shared.next (hc.calls id p hp) hnext
    refine ⟨hs, ?_⟩
    rintro q rfl
    exact priceSound_arrives hc.shared hforward (hc.calls id p hp) (next_arrives hnext)
  others := by
    intro c id w p s n hc hguard hp hnext id' q hne hq
    obtain ⟨-, hforward⟩ := hc.shared.next (hc.calls id p hp) hnext
    exact (hc.calls id' q hq).mono hforward
  rollback := fun hc _ => ⟨hc.shared, fun id' q _ hq => hc.calls id' q hq⟩

theorem retryBook_ne_answer
    {args : BookArgs} {round : ℕ} {answer : Answer} :
    retryBook args round ≠ .answer (.ok answer) := by
  unfold retryBook
  split <;> simp

/-- A claim that answers a booking has placed it. -/
theorem bookClaimed_eq_booking
    {args : BookArgs} {round : ℕ} {r : Except AppError (Claimed MealBooking)}
    {booking : MealBooking}
    (h : bookClaimed args round fresh r = .answer (.ok (.booking booking))) :
    r = .ok (.made booking) := by
  unfold bookClaimed at h
  split at h
  · cases h
  · cases h
    rfl
  · exact absurd h retryBook_ne_answer
  · cases h

/-- In every reachable state, a claim that places a booking on the publication the call
read freezes what the dishes of the menu cost as it commits. -/
theorem placed_price_eq_dishTotal
    {ms : List (Move Request World)} {c : Config Db Point} {id : ℕ} {w : World}
    {args : BookArgs} {round : ℕ} {fresh : Menu} {attempt : ℤ}
    {price : Option LedgerAmount} {booking : MealBooking} {s' : Db}
    (hrun : machine.run start ms = some c)
    (hcall : c.calls.lookup id = some (.bookClaim args round fresh attempt price))
    (hclaim : machine.next id c.shared (.bookClaim args round fresh attempt price) w =
      some (s', .answer (.ok (.booking booking))))
    (hsame : ∀ row, c.shared.menu.lookup args.menu = some row →
      row.menu.publication = fresh.publication) :
    s'.mealBooking.lookup args.id = some booking ∧
      LedgerAmount.minorOf booking.priceMinor = s'.dishTotal args.menu := by
  have hholds := price_relyGuarantee.holds_run
    (Config.initial_holds _ priceInvariant_empty) (Machine.guarded_true _ _) hrun
  obtain ⟨hid, hseen⟩ := hholds.calls id _ hcall
  obtain ⟨hstore, hanswer⟩ := Prod.mk.inj (Option.some.inj hclaim)
  have hmade := bookClaimed_eq_booking hanswer
  obtain ⟨-, ⟨hdup, -⟩ | ⟨hfull, -⟩⟩ | ⟨m, old, -, -, -, -, -, -, hdup, -⟩ |
    ⟨m, placed, hmenu, -, hversion, -, -, hplaced, hbooking, hs'⟩ :=
      claimAndPlace_cases (Prod.ext hmade hstore)
  · cases hdup
  · cases hfull
  · cases hdup
  · cases hplaced
    have hprice : booking.priceMinor = price := by
      obtain ⟨old, -, rfl⟩ | ⟨-, rfl⟩ := hbooking <;> rfl
    have hread : c.shared.menu.lookup fresh.id = some m := by rw [hid, hmenu]
    refine ⟨?_, ?_⟩
    · rw [hs']
      exact AList.lookup_insert _
    · rw [hprice, hseen.price m hread (hsame m hmenu) hversion, hid, hs']
      rfl

section Runs

open Sample

def pricedBooking : List (Move Request World) :=
  [publishLunch, tick 0, addDish .hundred, tick 1,
    bookLunch, tick 2, tick 2, tick 2]

def republishedLunch : List (Move Request World) :=
  pricedBooking ++
    [.start (.deleteMenu lunchMenu), tick 3, tick 3, publishLunch, tick 4,
      addDish ⟨200, by decide, by decide⟩, .advance 5 ⟨0, secondUuid⟩]

def lunchArgs : BookArgs := ⟨lunchMenu, ali, ali, noCutoff⟩

def lunchSeen : Menu :=
  { id := lunchMenu
    date := lunchDay
    slot := lunch
    capacity := none
    version := some 1
    createdBy := ali
    createdAt := 0
    publication := 0 }

def lunchClaim : Point :=
  .bookClaim lunchArgs 0 lunchSeen 1 (some .hundred)

def lunchSeat : MealBooking :=
  freshRow ⟨0, firstUuid⟩ lunchArgs 1 (some .hundred)

/-- After the run `ms` call 2 is about to claim the lunch as `publication`, and its claim
places the seat while the dishes cost `total`. -/
def placesLunch (ms : List (Move Request World)) (publication : ℕ) (total : ℤ) : Bool :=
  (machine.run start ms).any fun c =>
    decide (c.calls.lookup 2 = some lunchClaim) &&
      (decide ((c.shared.readMenu lunchMenu).map Menu.publication = some publication) &&
        (machine.next 2 c.shared lunchClaim ⟨0, firstUuid⟩).any fun (s', reply) =>
          s'.dishTotal lunchMenu = total ∧ reply = .answer (.ok (.booking lunchSeat)))

theorem placesLunch_elim
    {ms : List (Move Request World)} {publication : ℕ} {total : ℤ}
    (h : placesLunch ms publication total = true) :
    ∃ c s', machine.run start ms = some c ∧ c.calls.lookup 2 = some lunchClaim ∧
      machine.next 2 c.shared lunchClaim ⟨0, firstUuid⟩ =
        some (s', .answer (.ok (.booking lunchSeat))) ∧
      (c.shared.readMenu lunchMenu).map Menu.publication = some publication ∧
      s'.dishTotal lunchMenu = total := by
  obtain ⟨c, hrun, hc⟩ := (Option.any_eq_true _ _).mp h
  simp only [Bool.and_eq_true, decide_eq_true_eq] at hc
  obtain ⟨hcall, hpublication, hnext⟩ := hc
  obtain ⟨⟨s', reply⟩, hnext, hend⟩ := (Option.any_eq_true _ _).mp hnext
  obtain ⟨htotal, rfl⟩ := of_decide_eq_true hend
  exact ⟨c, s', hrun, hcall, hnext, hpublication, htotal⟩

theorem placed_price_eq_dishTotal_pricedBooking :
    ∃ s' : Db, LedgerAmount.minorOf lunchSeat.priceMinor = s'.dishTotal lunchMenu ∧
      s'.dishTotal lunchMenu = 100 := by
  have hplaces : placesLunch pricedBooking 0 100 = true := by decide
  obtain ⟨c, s', hrun, hcall, hnext, hpublication, htotal⟩ := placesLunch_elim hplaces
  refine ⟨s', (placed_price_eq_dishTotal hrun hcall hnext ?_).2, htotal⟩
  intro row hrow
  have hrow' : c.shared.menu.lookup lunchMenu = some row := hrow
  simpa [Db.readMenu, hrow', lunchSeen] using hpublication

theorem placed_price_goes_stale :
    ¬ ∀ (ms : List (Move Request World)) (c : Config Db Point) (id : ℕ) (w : World)
        (args : BookArgs) (round : ℕ) (fresh : Menu) (attempt : ℤ)
        (price : Option LedgerAmount) (booking : MealBooking) (s' : Db),
      machine.run start ms = some c →
      c.calls.lookup id = some (.bookClaim args round fresh attempt price) →
      machine.next id c.shared (.bookClaim args round fresh attempt price) w =
        some (s', .answer (.ok (.booking booking))) →
      LedgerAmount.minorOf booking.priceMinor = s'.dishTotal args.menu := by
  intro h
  have hplaces : placesLunch republishedLunch 1 200 = true := by decide
  obtain ⟨c, s', hrun, hcall, hnext, -, htotal⟩ := placesLunch_elim hplaces
  have hprice := h _ c 2 _ _ _ _ _ _ _ s' hrun hcall hnext
  have hmenu : lunchArgs.menu = lunchMenu := rfl
  rw [hmenu, htotal] at hprice
  exact absurd hprice (by decide)

end Runs

end Hezarfen.Meal
