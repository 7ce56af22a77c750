import StytchBrowser.Lib.Machine
import StytchBrowser.Lib.Slots
import StytchBrowser.Lib.Snapshots
import StytchBrowser.Lib.OrderedMap
import StytchBrowser.Lib.Digits
import StytchBrowser.Lib.FormUrlEncoded
import StytchBrowser.Lib.FormDecoding
import StytchBrowser.Lib.RawQuery
import StytchBrowser.Lib.Wildcards
import StytchBrowser.Lib.Grouping
import StytchBrowser.Lib.InsertionOrder
import StytchBrowser.Lib.Requests
import StytchBrowser.Lib.Effects
import StytchBrowser.Lib.SearchParams
import StytchBrowser.Lib.Separators
import StytchBrowser.JsUtils.Value
import StytchBrowser.JsUtils.Json
import StytchBrowser.JsUtils.DeepEqual
import StytchBrowser.JsUtils.DeepEqualLaws
import StytchBrowser.JsUtils.StableProps
import StytchBrowser.Core.SubscriptionService
import StytchBrowser.Core.DeviceStorage
import StytchBrowser.Core.TokenExclusivity
import StytchBrowser.Core.IntermediateToken
import StytchBrowser.Core.SessionClient
import StytchBrowser.Core.StaleResponses
import StytchBrowser.Core.SessionManager
import StytchBrowser.Core.BackgroundRefresh
import StytchBrowser.Core.RecordClients
import StytchBrowser.Core.PKCEManager
import StytchBrowser.Web.CookieJar
import StytchBrowser.Web.SubscriptionService
import StytchBrowser.Web.Logout
import StytchBrowser.Web.CrossTab
import StytchBrowser.Web.StateComparison
import StytchBrowser.Web.AuthUrlHandler
import StytchBrowser.Core.ErrorMarshaller
import StytchBrowser.Web.LateResponses
import StytchBrowser.Web.PKCEManager
import StytchBrowser.Web.TokenUpdates
import StytchBrowser.Web.RedeemableChallenges
import StytchBrowser.ReactNative.PKCEManager
import StytchBrowser.ReactNative.CodeVerifiers
import StytchBrowser.Core.RefreshTimers
import StytchBrowser.Core.EventLogger
import StytchBrowser.JsUtils.PlainObject
import StytchBrowser.Core.RBACLaws
import StytchBrowser.Lib.Splitting
import StytchBrowser.Web.IDPConsent
import StytchBrowser.Core.Rehydration
import StytchBrowser.Core.Restoration
import StytchBrowser.AdminPortal.DetailsSave
import StytchBrowser.AdminPortal.SCIMRoleAssignments
import StytchBrowser.AdminPortal.SSORoleAssignments
import StytchBrowser.Lib.FailingFolds
import StytchBrowser.Lib.Cells
import StytchBrowser.Lib.Chunks
import StytchBrowser.Lib.CodeUnits
import StytchBrowser.Lib.StableSort
import StytchBrowser.AdminPortal.RoleAssignments
import StytchBrowser.AdminPortal.OrgSettings
import StytchBrowser.ReactNative.NativeBiometrics
import StytchBrowser.ReactNative.KeyPolicy
import StytchBrowser.ReactNative.OAuthClient
import StytchBrowser.ReactNative.BiometricsClient
import StytchBrowser.ReactNative.BiometricCleanup
import StytchBrowser.React.Providers
import StytchBrowser.ReactNative.B2BUI.ProductOrdering
import StytchBrowser.ReactNative.B2BUI.EffectiveAuthConfig
import StytchBrowser.ReactNative.B2BUI.Reducers
import StytchBrowser.ReactNative.B2BUI.DeeplinkParser
import StytchBrowser.ReactNative.B2BUI.Deeplinks
import StytchBrowser.Web.B2BUI.AppState
import StytchBrowser.Web.B2BUI.Reducer
import StytchBrowser.Web.B2BUI.BackNavigation
import StytchBrowser.Web.B2BUI.MFAAgreement
import StytchBrowser.Web.B2BUI.SlugPattern
import StytchBrowser.Web.B2BUI.ProductOrdering
import StytchBrowser.Web.B2BUI.EffectiveAuthConfig
import StytchBrowser.Web.StyleToThemeKept
import StytchBrowser.ReactNative.B2BUI.Submitting
import StytchBrowser.ClientsideServices.IframeClient
import StytchBrowser.ReactNative.OTPInput
import StytchBrowser.AdminPortal.RoleAssignmentsSave
import StytchBrowser.AdminPortal.OAuthTenants
import StytchBrowser.Web.SubdomainFlips
import StytchBrowser.Lib.Pipeline
import StytchBrowser.Core.B2BRBACClient
import StytchBrowser.React.RBACHooks
import StytchBrowser.Lib.Dialog
import StytchBrowser.Web.CryptoWallets
import StytchBrowser.Lib.UrlHost
import StytchBrowser.Core.CustomEndpoints
import StytchBrowser.Core.NetworkClient
import StytchBrowser.Core.ModuleLoader
import StytchBrowser.Web.SafeStorage
import StytchBrowser.AdminPortal.AttributeMappingTable
import StytchBrowser.AdminPortal.AttributeMappingTable
import StytchBrowser.Lib.Base64
import StytchBrowser.ReactNative.CodeChallenges
import StytchBrowser.ReactNative.SessionMigration
import StytchBrowser.AdminPortal.Router
import StytchBrowser.AdminPortal.RoleSort
import StytchBrowser.JsUtils.Stringify
import StytchBrowser.AdminPortal.SameContents
import StytchBrowser.ReactNative.B2CUI.Reducers
import StytchBrowser.ReactNative.B2CUI.History
import StytchBrowser.AdminPortal.AccessSection
import StytchBrowser.AdminPortal.MemberPages
import StytchBrowser.Lib.Debounce
import StytchBrowser.Core.ProtectedAuth
import StytchBrowser.Core.FrameClient
import StytchBrowser.Web.PasswordStrength
import StytchBrowser.Web.IDPParams
import StytchBrowser.Web.IDPAuthorize
import StytchBrowser.Web.IDPLogout
import StytchBrowser.VanillaJs.Mounting
import StytchBrowser.Web.B2BUI.MFARuns
