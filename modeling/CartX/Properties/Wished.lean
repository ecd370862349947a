import CartX.Properties.WishlistRows
import Mathlib.Data.List.Induction

/-!
# What the wishlist page lists

Over any catalogue without double ids: whatever `_toggleWishlist` wrote from the pages
of its products, the wishlist page has a row for each product whose last write was a
`set`, and no other.
-/

namespace CartX

/-- The last write to the document of this name. -/
def lastCall (writes : List (Product × WishCall)) (id : String) : Option WishCall :=
  (writes.filter fun write => write.1.id == id).getLast?.map Prod.snd

/-- The row of a product's own document. -/
def WishlistRow.of (product : Product) : WishlistRow where
  imageAsset := product.imageAsset
  name := product.name
  price := product.price
  opens := product

section Wished

variable {catalogue : List Product} {writes : List (Product × WishCall)} {product : Product}

theorem MyItems.after_snoc (write : Product × WishCall) :
    MyItems.after (writes ++ [write]) = (MyItems.after writes).write write.1 write.2 := by
  simp [MyItems.after, List.foldl_append]

theorem lastCall_snoc (write : Product × WishCall) (id : String) :
    lastCall (writes ++ [write]) id =
      if write.1.id = id then some write.2 else lastCall writes id := by
  by_cases here : write.1.id = id <;> simp [lastCall, here]

/-- The collection has the document of a product exactly if the last write set it. -/
theorem mem_after_iff (ids : (catalogue.map Product.id).Nodup)
    (catalogued : ∀ write ∈ writes, write.1 ∈ catalogue) (listed : product ∈ catalogue) :
    (product.id, WishDoc.of product) ∈ MyItems.after writes ↔
      lastCall writes product.id = some .set := by
  induction writes using List.reverseRecOn with
  | nil => simp [MyItems.after, lastCall]
  | append_singleton writes write ih =>
    have before := ih fun other member => catalogued other (List.mem_append_left _ member)
    have written := catalogued write (List.mem_append_right _ (List.mem_singleton_self write))
    obtain ⟨other, call⟩ := write
    dsimp only at written
    rw [MyItems.after_snoc, lastCall_snoc]
    by_cases here : other.id = product.id
    -- the write is to this document, and no other product has the id
    · obtain rfl := List.inj_on_of_nodup_map ids written listed here
      cases call <;> simp [MyItems.write]
    · have apart : (product.id != other.id) = true := by simpa using Ne.symm here
      have elsewhere : (product.id, WishDoc.of product) ≠ (other.id, WishDoc.of other) :=
        fun same => here (congrArg Prod.fst same).symm
      rw [if_neg here, ← before]
      cases call <;> simp [MyItems.write, apart, elsewhere]

/-- A document of the catalogue's own product makes the row of that product. -/
theorem wishlistRow_of (ids : (catalogue.map Product.id).Nodup) (listed : product ∈ catalogue) :
    wishlistRow catalogue (.of product) = some (.of product) := by
  have found : catalogue.find? (fun other => other.id == product.id) = some product := by
    obtain ⟨other, found⟩ := Option.isSome_iff_exists.mp
      (List.find?_isSome (p := fun other : Product => other.id == product.id).mpr
        ⟨product, listed, by simp⟩)
    rw [found, List.inj_on_of_nodup_map ids (List.mem_of_find?_eq_some found) listed
      (by simpa using List.find?_some found)]
  rw [wishlistRow_of_find found]
  rfl

end Wished

/-- The wishlist page lists, once each and as the catalogue has them, the products whose last write
was a `set`. -/
theorem wishlist_lists_wished {catalogue : List Product} {writes : List (Product × WishCall)}
    (ids : (catalogue.map Product.id).Nodup)
    (catalogued : ∀ write ∈ writes, write.1 ∈ catalogue) :
    (wishlistRows catalogue (MyItems.after writes)).Nodup ∧
    ∀ row, row ∈ wishlistRows catalogue (MyItems.after writes) ↔
      ∃ product ∈ catalogue, lastCall writes product.id = some .set ∧ row = .of product := by
  have keyed := MyItems.keyed_after catalogued
  have own : ∀ item ∈ MyItems.after writes, ∃ product ∈ catalogue,
      item = (product.id, .of product) ∧ wishlistRow catalogue item.2 = some (.of product) := by
    intro item member
    obtain ⟨product, listed, rfl⟩ := keyed.docs item member
    exact ⟨product, listed, rfl, wishlistRow_of ids listed⟩
  constructor
  -- a row opens the product its document is named by
  · have names : (wishlistRows catalogue (MyItems.after writes)).map (fun row => row.opens.id) =
        (MyItems.after writes).map Prod.fst := by
      rw [wishlistRows, List.map_filterMap, ← List.filterMap_eq_map]
      apply List.filterMap_congr
      intro item member
      obtain ⟨product, _, rfl, row⟩ := own item member
      simp [row, WishlistRow.of]
    exact .of_map _ (names ▸ keyed.names)
  · intro row
    rw [wishlistRows, List.mem_filterMap]
    constructor
    · rintro ⟨item, member, made⟩
      obtain ⟨product, listed, rfl, shown⟩ := own item member
      exact ⟨product, listed, (mem_after_iff ids catalogued listed).mp member,
        Option.some.inj (made.symm.trans shown)⟩
    · rintro ⟨product, listed, wished, rfl⟩
      exact ⟨_, (mem_after_iff ids catalogued listed).mpr wished, wishlistRow_of ids listed⟩

/-- A heart set twice, and one set and taken back. -/
theorem wishlist_lists_backpack :
    (wishlistRows demoProducts (.after [(tomato, .set), (backpack, .set), (tomato, .delete),
      (backpack, .set)])).Nodup ∧
    ∀ row, row ∈ wishlistRows demoProducts (.after [(tomato, .set), (backpack, .set),
      (tomato, .delete), (backpack, .set)]) ↔ row = .of backpack := by
  have ids : (demoProducts.map Product.id).Nodup := by decide +kernel
  have listed : ∀ write ∈ [(tomato, WishCall.set), (backpack, .set), (tomato, .delete),
      (backpack, .set)], write.1 ∈ demoProducts := by decide +kernel
  obtain ⟨once, rows⟩ := wishlist_lists_wished ids listed
  refine ⟨once, fun row => (rows row).trans ⟨?_, ?_⟩⟩
  · rintro ⟨product, member, wished, rfl⟩
    revert product
    decide +kernel
  · rintro rfl
    exact ⟨backpack, List.get_mem _ _, by decide +kernel, rfl⟩

end CartX
