import CartX.Model.Handlers
import CartX.Model.Wishlist

/-!
# The pages that list

`ProductCatagoryPage`, `WishlistPage` and `MyOrdersPage` are stateless: their rows
are functions of the catalogue and of the documents Firestore returns. The
catalogue is a parameter here, since a document outlives the one compiled into
the app that wrote it.
-/

namespace CartX

/-! ### ProductCatagoryPage -/

/-- The counting loop of one row. -/
def itemCount (demoProducts : List Product) (categoryName : String) : Nat :=
  demoProducts.foldl
    (fun itemCount product =>
      if product.category = categoryName then itemCount + 1 else itemCount) 0

/-- A row: its 'N items', and the products of the `ProductListPage` it opens. -/
structure CategoryRow where
  categoryName : String
  itemCount : Nat
  products : List Product
  deriving DecidableEq, Repr

def categoryRows (demoProducts : List Product) : List CategoryRow :=
  categoryNames.map fun categoryName =>
    { categoryName
      itemCount := itemCount demoProducts categoryName
      products := listedProducts demoProducts (some categoryName) }

/-! ### WishlistPage -/

/-- A document of `my_items`. -/
structure WishDoc where
  id : String
  name : String
  price : ℚ
  category : String
  /-- `data['imageAsset']`, which the reader does not take for granted. -/
  imageAsset : Option String
  deriving DecidableEq, Repr

/-- What `_toggleWishlist` sets. -/
def WishDoc.of (product : Product) : WishDoc where
  id := product.id
  name := product.name
  price := product.price
  category := product.category
  imageAsset := some product.imageAsset

/-- The collection `my_items` by document name. -/
abbrev MyItems := List (String × WishDoc)

/-- One write of `_toggleWishlist` on a product's page, to the document named by its id. -/
def MyItems.write (myItems : MyItems) (product : Product) : WishCall → MyItems
  | .set => myItems.filter (fun item => item.1 != product.id) ++ [(product.id, .of product)]
  | .delete => myItems.filter fun item => item.1 != product.id

/-- The collection after writes from the pages of the products. -/
def MyItems.after (writes : List (Product × WishCall)) : MyItems :=
  writes.foldl (fun myItems write => myItems.write write.1 write.2) []

structure WishlistRow where
  imageAsset : String
  name : String
  price : ℚ
  /-- The product of the page a tap opens. -/
  opens : Product
  deriving DecidableEq, Repr

/-- `itemBuilder` for one document. `demoProducts.first` throws where there is no product, and
the row is lost. -/
def wishlistRow (demoProducts : List Product) (data : WishDoc) : Option WishlistRow :=
  let product? := (demoProducts.find? fun product => product.id == data.id).or demoProducts.head?
  product?.map fun product =>
    { imageAsset := data.imageAsset.getD product.imageAsset
      name := product.name
      price := product.price
      opens := product }

def wishlistRows (demoProducts : List Product) (myItems : MyItems) : List WishlistRow :=
  myItems.filterMap fun item => wishlistRow demoProducts item.2

/-! ### MyOrdersPage -/

/-- The fields of an order document as the reader finds them. -/
structure OrderData where
  buyerId : Option String
  amount : Option ℚ
  orderDate : Nat
  itemSummary : Option String
  deriving DecidableEq, Repr

/-- A stored document is read back unchanged. -/
def OrderDoc.data (doc : OrderDoc) : OrderData where
  buyerId := some doc.buyerId
  amount := some doc.amount
  orderDate := doc.orderDate
  itemSummary := some doc.itemSummary

structure OrderRow where
  bill : ℚ
  date : Nat
  summary : String
  deriving DecidableEq, Repr

def OrderData.row (data : OrderData) : OrderRow where
  bill := data.amount.getD 0
  date := data.orderDate
  summary := data.itemSummary.getD "Product Details"

/-- `where('buyerId', isEqualTo: currentUserId)`, with the page's own substitute for nobody. -/
def myOrders (currentUser : Option Uid) (orders : List OrderDoc) : List OrderDoc :=
  let currentUserId := currentUser.getD ""
  orders.filter fun doc => doc.data.buyerId == some currentUserId

def orderRows (currentUser : Option Uid) (orders : List OrderDoc) : List OrderRow :=
  (myOrders currentUser orders).map fun doc => doc.data.row

end CartX
