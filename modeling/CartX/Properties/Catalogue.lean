import CartX.Lists.Fibers
import CartX.Model.Listings

/-!
# Browsing the catalogue

The category rows are a list of six names, written apart from the products'
own category strings. A product is found through the rows exactly when its
category is one of the six; the shipped backpack's is not.
-/

namespace CartX

/-- Browsing by category: one row lists a product, as often as the catalogue has it, and the
counts shown are those of the lists and add up to the catalogue. -/
structure Partitions (demoProducts : List Product) : Prop where
  once : ∀ product ∈ demoProducts,
    (categoryRows demoProducts).countP (fun row => decide (product ∈ row.products)) = 1
  often : ∀ row ∈ categoryRows demoProducts, ∀ product ∈ row.products,
    row.products.count product = demoProducts.count product
  counts : ∀ row ∈ categoryRows demoProducts, row.itemCount = row.products.length
  total : ((categoryRows demoProducts).map CategoryRow.itemCount).sum = demoProducts.length

theorem categoryNames_nodup : categoryNames.Nodup := by decide

/-- The counting loop counts the products of the category, one by one. -/
theorem itemCount_eq (demoProducts : List Product) (categoryName : String) :
    itemCount demoProducts categoryName =
      Lists.fiberSum Product.category (fun _ => 1) demoProducts categoryName := by
  -- the loop adds to a count, so the induction is for every count so far
  have general (start : Nat) : demoProducts.foldl
      (fun itemCount product => if product.category = categoryName then itemCount + 1 else itemCount)
      start = start + Lists.fiberSum Product.category (fun _ => 1) demoProducts categoryName := by
    induction demoProducts generalizing start with
    | nil => simp
    | cons product rest ih =>
      rw [List.foldl_cons, ih, Lists.fiberSum_cons]
      by_cases here : product.category = categoryName
      · simp [here]
        omega
      · simp [here]
  simpa [itemCount] using general 0

theorem itemCount_eq_length (demoProducts : List Product) (categoryName : String) :
    itemCount demoProducts categoryName =
      (listedProducts demoProducts (some categoryName)).length := by
  rw [itemCount_eq, Lists.fiberSum, List.map_const', List.sum_replicate]
  simp [listedProducts, beq_eq_decide]

theorem mem_listedProducts {demoProducts : List Product} {categoryName : String} {product : Product} :
    product ∈ listedProducts demoProducts (some categoryName) ↔
      product ∈ demoProducts ∧ product.category = categoryName := by
  simp [listedProducts]

/-- How many rows list a product of the catalogue. -/
theorem rows_listing {demoProducts : List Product} {product : Product}
    (member : product ∈ demoProducts) :
    (categoryRows demoProducts).countP (fun row => decide (product ∈ row.products)) =
      if product.category ∈ categoryNames then 1 else 0 := by
  have names : (categoryRows demoProducts).countP (fun row => decide (product ∈ row.products)) =
      categoryNames.count product.category := by
    simp only [categoryRows, List.countP_map, List.count]
    apply List.countP_congr
    intro name _
    rw [Function.comp_apply, decide_eq_true_iff, mem_listedProducts, beq_iff_eq]
    exact ⟨fun listed => listed.2.symm, fun here => ⟨member, here.symm⟩⟩
  rw [names, List.Nodup.count categoryNames_nodup]

/-- The rows partition a catalogue exactly when every product's category is one of theirs. -/
theorem browsing_partitions_iff (demoProducts : List Product) :
    Partitions demoProducts ↔ ∀ product ∈ demoProducts, product.category ∈ categoryNames := by
  constructor
  · intro parts product member
    have once := parts.once product member
    rw [rows_listing member] at once
    by_contra uncovered
    simp [uncovered] at once
  · intro covered
    constructor
    · intro product member
      rw [rows_listing member, if_pos (covered product member)]
    · intro row listed product member
      obtain ⟨name, _, rfl⟩ := List.mem_map.mp listed
      have category := (mem_listedProducts.mp member).2
      exact List.count_filter (by simpa using category)
    · intro row listed
      obtain ⟨name, _, rfl⟩ := List.mem_map.mp listed
      exact itemCount_eq_length demoProducts name
    · have counts : (categoryRows demoProducts).map CategoryRow.itemCount =
          categoryNames.map (Lists.fiberSum Product.category (fun _ => 1) demoProducts) := by
        rw [categoryRows, List.map_map]
        exact List.map_congr_left fun name _ => itemCount_eq demoProducts name
      rw [counts, Lists.sum_fiberSum_of_cover _ _ categoryNames_nodup covered]
      simp

/-- No row lists the backpack of the shipped catalogue. -/
theorem backpack_in_no_category : ¬ ∀ demoProducts : List Product, Partitions demoProducts := by
  intro all
  have once := (all demoProducts).once backpack (by decide +kernel)
  revert once
  decide +kernel

end CartX
