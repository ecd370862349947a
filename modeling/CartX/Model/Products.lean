import Mathlib.Data.Rat.Defs

/-!
# The catalogue

`lib/Hasnine/products.dart`. Prices are Dart doubles there; the model computes
with exact rationals.
-/

namespace CartX

structure Product where
  id : String
  name : String
  category : String
  price : ℚ
  description : String
  imageAsset : String
  deriving DecidableEq, Repr

def demoProducts : List Product := [
  { id := "p1", name := "Fresh Tomatoo (1 kg)", category := "Food", price := 70,
    description := "Fresh, Healthy, Organic Tomatoo",
    imageAsset := "assets/food.png" },
  { id := "p2", name := "Laptop Backpack", category := "Bags", price := 2000,
    description := "Water-resistant backpack with laptop compartment.",
    imageAsset := "assets/bag.png" },
  { id := "p3", name := "T-Shirt", category := "Clothing", price := 1500,
    description := "Lightweight dry-fit t-shirt.",
    imageAsset := "assets/shirt.png" },
  { id := "p4", name := "Galaxy Buds 2", category := "Electronics", price := 9000,
    description := "Noise-isolation earbuds with strong battery life.",
    imageAsset := "assets/buds.png" },
  { id := "p5", name := "Sneakers", category := "Sports", price := 1800,
    description := "For sports and fashion",
    imageAsset := "assets/sneakers.png" },
  { id := "p6", name := "Sunscream", category := "Beauty", price := 720,
    description := "sunscream for protect from sunlight",
    imageAsset := "assets/beauty.png" },
  { id := "p7", name := "Bluetooth Speaker", category := "Electronics", price := 4000,
    description := "Portable speaker with clear sound and bass.",
    imageAsset := "assets/speaker.png" },
  { id := "p8", name := "Wrist Watch", category := "Accessories", price := 4000,
    description := "Simple wrist watch for everyday wear.",
    imageAsset := "assets/watch.png" },
  { id := "p9", name := "Football Boots", category := "Sports", price := 3000,
    description := "Comfortable boots for football practice and matches.",
    imageAsset := "assets/footballboot.png" },
  { id := "p10", name := "Milk (1 liter)", category := "Food", price := 90,
    description := "Fresh milk.",
    imageAsset := "assets/milk.png" },
  { id := "p11", name := "Cotton Hoodie", category := "Clothing", price := 1500,
    description := "Soft hoodie for regular wear in cool weather.",
    imageAsset := "assets/hoodie.png" },
  { id := "p12", name := "Power Bank", category := "Electronics", price := 2200,
    description := "Portable charger with fast charging support.",
    imageAsset := "assets/powerbank.png" },
  { id := "p13", name := "Sunglasses", category := "Accessories", price := 1200,
    description := "Lightweight sunglasses with UV protection.",
    imageAsset := "assets/sunglasses.png" }]

def tomato : Product := demoProducts.get ⟨0, by decide⟩

def backpack : Product := demoProducts.get ⟨1, by decide⟩

/-- The products of the home page's grid, by their positions in the catalogue. -/
def popularProducts : List Product :=
  [0, 1, 3, 12, 10, 11].filterMap fun index => demoProducts[index]?

/-- The rows of `ProductCatagoryPage`. -/
def categoryNames : List String :=
  ["Food", "Clothing", "Electronics", "Accessories", "Sports", "Beauty"]

/-- What `ProductListPage` lists: all products without a filter, else one category's. -/
def listedProducts (demoProducts : List Product) (categoryFilter : Option String) : List Product :=
  match categoryFilter with
  | none => demoProducts
  | some category => demoProducts.filter fun product => product.category == category

end CartX
