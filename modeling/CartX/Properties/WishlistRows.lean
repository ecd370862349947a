import CartX.Model.Listings

/-!
# Wishlist rows across catalogues

`_toggleWishlist` stores a copy of a product under its id; `WishlistPage` looks the
id up in the catalogue it was compiled with and falls back on that catalogue's
first product. Where the id is gone, the row shows the stored image over the
name and the price of the first product, and opens its page.
-/

namespace CartX

/-- What a row shows and opens is of the product its document names; `written` is the catalogue
the documents were written under, `read` the one the page is built with. -/
structure RowsFaithful (written read : List Product) (myItems : MyItems) : Prop where
  shown : ∀ item ∈ myItems, ∀ row, wishlistRow read item.2 = some row →
    row.opens ∈ read ∧ row.opens.id = item.2.id ∧ row.name = row.opens.name ∧
      row.price = row.opens.price ∧
      ∃ product, (product ∈ written ∨ product ∈ read) ∧ product.id = item.2.id ∧
        row.imageAsset = product.imageAsset
  missing : ∀ item ∈ myItems, item.2.id ∉ read.map Product.id → wishlistRow read item.2 = none
  present : ∀ item ∈ myItems, item.2.id ∈ read.map Product.id →
    (wishlistRows read myItems).countP (fun row => row.opens.id == item.2.id) = 1

/-! ### The collection -/

/-- Every document is a product's, under the product's id, and no two have one name. -/
structure MyItems.Keyed (written : List Product) (myItems : MyItems) : Prop where
  names : (myItems.map Prod.fst).Nodup
  docs : ∀ item ∈ myItems, ∃ product ∈ written, item = (product.id, .of product)

theorem MyItems.Keyed.write {written : List Product} {myItems : MyItems}
    (keyed : myItems.Keyed written) {product : Product} (catalogued : product ∈ written)
    (call : WishCall) : (myItems.write product call).Keyed written := by
  have others : MyItems.Keyed written (myItems.filter fun item => item.1 != product.id) :=
    ⟨keyed.names.sublist (List.filter_sublist.map _),
      fun item member => keyed.docs item (List.mem_of_mem_filter member)⟩
  cases call with
  | delete => exact others
  | set =>
    constructor
    · simp only [MyItems.write, List.map_append, List.map_cons, List.map_nil]
      rw [List.nodup_append_comm, List.singleton_append, List.nodup_cons]
      refine ⟨?_, others.names⟩
      simp
    · intro item member
      rcases List.mem_append.mp member with old | new
      · exact others.docs item old
      · rw [List.mem_singleton] at new
        exact ⟨product, catalogued, new⟩

theorem MyItems.keyed_after {written : List Product} {writes : List (Product × WishCall)}
    (catalogued : ∀ write ∈ writes, write.1 ∈ written) : (MyItems.after writes).Keyed written := by
  -- along the writes, from any keyed collection
  have general (myItems : MyItems) (keyed : myItems.Keyed written) :
      MyItems.Keyed written
        (writes.foldl (fun myItems write => myItems.write write.1 write.2) myItems) := by
    induction writes generalizing myItems with
    | nil => exact keyed
    | cons write rest ih =>
      exact ih (fun other member => catalogued other (List.mem_cons_of_mem _ member)) _
        (keyed.write (catalogued write List.mem_cons_self) write.2)
  exact general [] ⟨List.nodup_nil, by simp⟩

/-! ### The rows -/

theorem wishlistRow_of_find {read : List Product} {data : WishDoc} {product : Product}
    (found : read.find? (fun product => product.id == data.id) = some product) :
    wishlistRow read data = some
      { imageAsset := data.imageAsset.getD product.imageAsset
        name := product.name
        price := product.price
        opens := product } := by
  simp [wishlistRow, found]

/-- Where the id is in the catalogue, the row is of a product with that id. -/
theorem exists_wishlistRow {read : List Product} {data : WishDoc}
    (listed : data.id ∈ read.map Product.id) :
    ∃ product ∈ read, product.id = data.id ∧ wishlistRow read data = some
      { imageAsset := data.imageAsset.getD product.imageAsset
        name := product.name
        price := product.price
        opens := product } := by
  obtain ⟨product, member, same⟩ := List.mem_map.mp listed
  obtain ⟨found, here⟩ := Option.isSome_iff_exists.mp
    (List.find?_isSome (p := fun product : Product => product.id == data.id).mpr
      ⟨product, member, by simp [same]⟩)
  exact ⟨found, List.mem_of_find?_eq_some here, by simpa using List.find?_some here,
    wishlistRow_of_find here⟩

theorem rows_for_id {written read : List Product} {myItems : MyItems}
    (keyed : myItems.Keyed written) (listed : ∀ item ∈ myItems, item.2.id ∈ read.map Product.id)
    {item : String × WishDoc} (member : item ∈ myItems) :
    (wishlistRows read myItems).countP (fun row => row.opens.id == item.2.id) = 1 := by
  have name {other : String × WishDoc} (here : other ∈ myItems) : other.1 = other.2.id := by
    obtain ⟨product, _, rfl⟩ := keyed.docs other here
    rfl
  have rows : (wishlistRows read myItems).countP (fun row => row.opens.id == item.2.id) =
      (myItems.map Prod.fst).count item.1 := by
    rw [wishlistRows, List.countP_filterMap, List.count, List.countP_map]
    apply List.countP_congr
    intro other here
    obtain ⟨product, _, same, row⟩ := exists_wishlistRow (listed other here)
    simp [row, same, name here, name member]
  rw [rows, List.Nodup.count keyed.names, if_pos (List.mem_map_of_mem member)]

/-! ### The result -/

/-- For every collection written from the pages of one catalogue and read under another: the
rows are of the products their documents name exactly when the reading catalogue still has every
stored id, or is empty. -/
theorem wishlist_rows_faithful_iff {written read : List Product}
    {writes : List (Product × WishCall)} (catalogued : ∀ write ∈ writes, write.1 ∈ written) :
    RowsFaithful written read (MyItems.after writes) ↔
      read = [] ∨ ∀ item ∈ MyItems.after writes, item.2.id ∈ read.map Product.id := by
  have keyed := MyItems.keyed_after catalogued
  generalize MyItems.after writes = myItems at keyed
  constructor
  · intro faithful
    cases read with
    | nil => exact .inl rfl
    | cons first rest =>
      refine .inr fun item member => ?_
      by_contra gone
      -- the first product steps in
      have none := faithful.missing item member gone
      simp [wishlistRow] at none
  · rintro (rfl | listed)
    · exact ⟨by simp [wishlistRow], by simp [wishlistRow], by simp⟩
    · constructor
      · intro item member row built
        obtain ⟨product, stored, rfl⟩ := keyed.docs item member
        obtain ⟨found, here, same, row_eq⟩ := exists_wishlistRow (listed _ member)
        rw [row_eq, Option.some.injEq] at built
        subst built
        exact ⟨here, same, rfl, rfl, product, .inl stored, rfl, rfl⟩
      · intro item member gone
        exact absurd (listed item member) gone
      · intro item member _
        exact rows_for_id keyed listed member

/-- The tomato is taken off the wishlist before it leaves the catalogue. -/
theorem wishlist_rows_faithful_later :
    RowsFaithful demoProducts demoProducts.tail
      (MyItems.after [(tomato, .set), (backpack, .set), (tomato, .delete)]) :=
  (wishlist_rows_faithful_iff (by decide +kernel)).mpr (.inr (by decide +kernel))

/-- The tomato leaves the catalogue first: its row turns into the backpack. -/
theorem tomato_row_turns_into_backpack :
    ¬ ∀ (written read : List Product) (writes : List (Product × WishCall)),
      (∀ write ∈ writes, write.1 ∈ written) → (read.map Product.id).Nodup →
      RowsFaithful written read (MyItems.after writes) := by
  intro all
  have faithful := all demoProducts demoProducts.tail [(tomato, .set)] (by decide +kernel)
    (by decide +kernel)
  have row : wishlistRow demoProducts.tail (.of tomato) =
      some ⟨tomato.imageAsset, backpack.name, backpack.price, backpack⟩ := by decide +kernel
  have opened := (faithful.shown (tomato.id, .of tomato) (by decide +kernel) _ row).2.1
  revert opened
  decide +kernel

end CartX
