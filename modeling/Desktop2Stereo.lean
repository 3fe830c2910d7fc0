import Desktop2Stereo.Licence.Lease
import Desktop2Stereo.Licence.Offline
import Desktop2Stereo.Licence.Permanent
import Desktop2Stereo.Licence.Trial
import Desktop2Stereo.Order.Replay
import Desktop2Stereo.Order.Quota
import Desktop2Stereo.Balance.Regions
import Desktop2Stereo.Licence.Cooldown
import Desktop2Stereo.Session.AuthVersion
import Desktop2Stereo.Session.Revocation
import Desktop2Stereo.Session.Limits
import Desktop2Stereo.Wallet.Reservations
import Desktop2Stereo.Subscription.Refunds
import Desktop2Stereo.Subscription.Groups
import Desktop2Stereo.Billing.Session
import Desktop2Stereo.Wallet.TopUps
import Desktop2Stereo.Plugin.Registry
import Desktop2Stereo.Stream.ClaudeGrammar
import Desktop2Stereo.SystemTask.Crash
import Desktop2Stereo.Auth.SingleUse
import Desktop2Stereo.Billing.UsageBridges
import Desktop2Stereo.Billing.ClaudeStreams
import Desktop2Stereo.Stream.ClaudeToChat
import Desktop2Stereo.Stream.ChatToGemini
import Desktop2Stereo.Request.ClaudeToChat
import Desktop2Stereo.Request.RoundTrip
import Desktop2Stereo.Task.Polling
import Desktop2Stereo.Order.EpayRefunds
import Desktop2Stereo.Order.StripeDisputes
import Desktop2Stereo.Task.Pricing
import Desktop2Stereo.RateLimit.Backends
import Desktop2Stereo.Request.GeminiSchema
