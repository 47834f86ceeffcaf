import SubscriptionBilling.Log.Output
import SubscriptionBilling.Scenario.Amendment
import SubscriptionBilling.Scenario.Route
import SubscriptionBilling.Scenario.Widget
import SubscriptionBilling.Service.Listing
import SubscriptionBilling.Settings.Loading
import SubscriptionBilling.Trial
import SubscriptionBilling.Webhook.Intake
import SubscriptionBilling.Webhook.Routes
import SubscriptionBilling.Proofs.Calls
import SubscriptionBilling.Proofs.Keyed
import SubscriptionBilling.Proofs.Slots
import SubscriptionBilling.Proofs.Turn
import SubscriptionBilling.Proofs.Routing
import SubscriptionBilling.Proofs.Delivery
import SubscriptionBilling.Proofs.ProviderCancellation
import SubscriptionBilling.Proofs.Pass
import SubscriptionBilling.Proofs.Payment
import SubscriptionBilling.Proofs.Interruption
import SubscriptionBilling.Proofs.StatusChain
import SubscriptionBilling.Proofs.Ledger
import SubscriptionBilling.Proofs.History
import SubscriptionBilling.Proofs.DeliveryOrder
import SubscriptionBilling.Proofs.SignUp
import SubscriptionBilling.Proofs.Enrollment
import SubscriptionBilling.Proofs.Redelivery
import SubscriptionBilling.Proofs.Publication
import SubscriptionBilling.Proofs.Sparing
import SubscriptionBilling.Proofs.AuditTrail
import SubscriptionBilling.Proofs.Ownership
import SubscriptionBilling.Proofs.Linking
import SubscriptionBilling.Proofs.Editing
import SubscriptionBilling.Proofs.Refusal
import SubscriptionBilling.Proofs.Permanence
import SubscriptionBilling.Proofs.Calendar
import SubscriptionBilling.Proofs.Numerals
import SubscriptionBilling.Proofs.InstantText
import SubscriptionBilling.Proofs.UuidText
import SubscriptionBilling.Proofs.Lexemes
import SubscriptionBilling.Proofs.Grammar
import SubscriptionBilling.Proofs.JsonText
import SubscriptionBilling.Proofs.Fields
import SubscriptionBilling.Proofs.Schemas
import SubscriptionBilling.Proofs.Wrapping
import SubscriptionBilling.Proofs.WireFormat
import SubscriptionBilling.Proofs.BusTrials
import SubscriptionBilling.Proofs.SelfDelivery
import SubscriptionBilling.Proofs.Watching
import SubscriptionBilling.Proofs.Snapshot
import SubscriptionBilling.Proofs.TopicTree
import SubscriptionBilling.Proofs.Repetition
import SubscriptionBilling.Proofs.Lifecycle
import SubscriptionBilling.Proofs.CommandOutcome
import SubscriptionBilling.Proofs.SingleRoute
import SubscriptionBilling.Proofs.Days
import SubscriptionBilling.Proofs.PaidPeriod
import SubscriptionBilling.Proofs.Caseless
import SubscriptionBilling.Proofs.Variables
import SubscriptionBilling.Proofs.PeriodSetting
import SubscriptionBilling.Proofs.PlanSetting
import SubscriptionBilling.Proofs.Course
import SubscriptionBilling.Proofs.Filing
import SubscriptionBilling.Proofs.AccountBook
import SubscriptionBilling.Proofs.RefusedFields
import SubscriptionBilling.Proofs.Rebuilding
import SubscriptionBilling.Proofs.TopicVersion
import SubscriptionBilling.Proofs.Bodies
import SubscriptionBilling.Proofs.ListingHistory
