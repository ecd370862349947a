import CartX.Machine.Run
import CartX.Machine.Observer
import CartX.Machine.Simulation
import CartX.Machine.Ranking
import CartX.Machine.Documents
import CartX.Lists.Edits
import CartX.Lists.Fibers
import CartX.Numbers.Binary64
import CartX.Model.Products
import CartX.Model.Cart
import CartX.Model.Handlers
import CartX.Model.App
import CartX.Model.Exits
import CartX.Model.Amounts
import CartX.Model.Wishlist
import CartX.Model.Wishes
import CartX.Model.Signup
import CartX.Model.Accounts
import CartX.Model.Profiles
import CartX.Model.Listings
import CartX.Model.Search
import CartX.Model.Shop
import CartX.Model.EditProfile
import CartX.Properties.Ledger
import CartX.Properties.Mounted
import CartX.Properties.Steps
import CartX.Properties.WellFormed
import CartX.Properties.Pages
import CartX.Properties.BackStack
import CartX.Properties.Login
import CartX.Properties.Failures
import CartX.Properties.OrderBook
import CartX.Properties.Quantities
import CartX.Properties.Orders
import CartX.Properties.Units
import CartX.Properties.Billing
import CartX.Properties.CartRows
import CartX.Properties.Session
import CartX.Properties.Identities
import CartX.Properties.Isolation
import CartX.Properties.Wishlist
import CartX.Properties.WishlistRows
import CartX.Properties.Wished
import CartX.Properties.Catalogue
import CartX.Properties.Search
import CartX.Properties.OrderHistory
import CartX.Properties.Signup
import CartX.Properties.Accounts
import CartX.Properties.Profiles
import CartX.Properties.Prices
import CartX.Properties.EditProfile
import CartX.Properties.Navigation
import CartX.Properties.Tabs
import CartX.Properties.Reordering
import CartX.Properties.Freshness
import CartX.Properties.Settling
import CartX.Properties.PageSessions
import CartX.Properties.WishCalls
import CartX.Properties.HeartPages
import CartX.Properties.Hearts
import CartX.Properties.Storefront
import CartX.Properties.Amounts
import CartX.Properties.Filing
import CartX.Properties.Orderable
import CartX.Properties.Exits
