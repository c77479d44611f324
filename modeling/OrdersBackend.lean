import OrdersBackend.Accounts.Completeness
import OrdersBackend.Accounts.Emails
import OrdersBackend.Accounts.PasswordReset
import OrdersBackend.Accounts.TaxNumberChecks
import OrdersBackend.Accounts.TypingErrors
import OrdersBackend.Cache.CategoryTree
import OrdersBackend.Cache.Keys
import OrdersBackend.Cache.ModelMethod
import OrdersBackend.Cache.ProductList
import OrdersBackend.Cache.SiteThrottles
import OrdersBackend.Cache.Staleness
import OrdersBackend.Cache.Throttling
import OrdersBackend.Catalogue.Failures
import OrdersBackend.Catalogue.Formats
import OrdersBackend.Catalogue.ImportRequest
import OrdersBackend.Catalogue.Notations
import OrdersBackend.Catalogue.Ownership
import OrdersBackend.Catalogue.Permutation
import OrdersBackend.Catalogue.Prices
import OrdersBackend.Catalogue.Reimport
import OrdersBackend.Framework.Jobs
import OrdersBackend.Framework.References
import OrdersBackend.Market.Acceptance
import OrdersBackend.Market.Attributes
import OrdersBackend.Market.ImageRequests
import OrdersBackend.Market.Isolation
import OrdersBackend.Market.Login
import OrdersBackend.Market.Overselling
import OrdersBackend.Market.Pictures
import OrdersBackend.Market.Privileges
import OrdersBackend.Market.Registrations
import OrdersBackend.Market.Site
import OrdersBackend.Market.State
import OrdersBackend.Market.Tasks
import OrdersBackend.Market.Uploads
import OrdersBackend.Orders.Charging
import OrdersBackend.Orders.Confirmation
import OrdersBackend.Orders.Interleaving
import OrdersBackend.Orders.Money
import OrdersBackend.Orders.Statistics
import OrdersBackend.Orders.Status
import OrdersBackend.Orders.Stock
import OrdersBackend.Orders.Totals
import OrdersBackend.Orders.Visibility
import OrdersBackend.Products.Thumbnails
