import Desktop2Stereo.Model.System

/-!
# Desktop2Stereo: payment callbacks

The part of `controller/d2s_payment_adapters.go` that turns the verified callbacks of Epay and Stripe into payment
events.

* `processVerifiedD2SPayment`: what the adapters share; `processEpayD2SPayment`, `processStripeD2SPayment`.

An error comes with the answer that the callback was one about an order of Desktop2Stereo.
-/

namespace Desktop2Stereo

open Relational GoText

/-- The order of a callback, if there is one. -/
def d2sOrderOf (orderID : String) : Call (Option D2SOrder) := Prog.atomic (lookup Tbl.orders (·.id = orderID))

def processVerifiedD2SPayment [Digest] (e : Env) (provider eventID orderID eventType : String) (amountMinor : ℤ)
    (currency payload : String) (paymentAccountIdentifierHash : Option String := none) : Call Bool :=
  let orderID := trimSpace orderID
  if orderID = "" then pure false
  else do
    match ← d2sOrderOf orderID with
    | none => pure false
    | some _ =>
      let _ ← Prog.atomic (processD2SPaymentEvent e
        { provider, eventID, orderID, eventType, amountMinor, currency, payloadHash := Digest.sha256Hex payload
          now := e.wall, paymentAccountIdentifierHash })
      pure true

/-! ## Epay -/

/-- The part of `epay.VerifyRes` that is read. -/
structure VerifyRes where
  tradeNo : String
  serviceTradeNo : String
  money : String
  tradeStatus : String

def VerifyRes.eventType (result : VerifyRes) : Option String :=
  match result.tradeStatus with
  | "TRADE_SUCCESS" => some "paid"
  | "TRADE_REFUND" => some "reversed"
  | "TRADE_CLOSED" => some "canceled"
  | _ => none

/-- `decimal.NewFromString`: a sign, digits with a point among them, and a power of ten. -/
def decimalOf (text : String) : Option ℚ :=
  let (mantissa, exponent) := text.toList.span fun c => c ≠ 'e' ∧ c ≠ 'E'
  let (negative, body) := match mantissa with
    | '-' :: body => (true, body)
    | '+' :: body => (false, body)
    | body => (false, body)
  let (whole, rest) := body.span (· ≠ '.')
  let digits := whole ++ rest.drop 1
  let power := if exponent = [] then some 0 else parseInt (String.ofList (exponent.drop 1))
  if digits ≠ [] ∧ digits.all Char.isDigit then
    power.map fun power =>
      (if negative then -1 else 1) * (digits.foldl (fun n c => 10 * n + (c.toNat - 48)) 0 : ℕ) *
        (10 : ℚ) ^ (power - (rest.length - 1 : ℕ) : ℤ)
  else none

/-- The amount in minor units: a whole number of them that fits in 64 bits. -/
def VerifyRes.minor (result : VerifyRes) : Option ℤ :=
  match decimalOf (trimSpace result.money) with
  | none => none
  | some amount => if 0 ≤ amount ∧ (amount * 100).den = 1 ∧ (amount * 100).num < 2 ^ 63 then some (amount * 100).num else none

def isEpayD2SProvider : Provider → Bool
  | .epay | .paymentfm | .alipay | .wechat => true
  | _ => false

def processEpayD2SPayment [Digest] (e : Env) (result : VerifyRes) (payload : String) : Call Bool :=
  if trimSpace result.serviceTradeNo = "" then pure false
  else do
    match ← d2sOrderOf result.serviceTradeNo with
    | none => pure false
    | some _ =>
      match result.eventType with
      | none => pure true
      | some eventType =>
        let minor ← Prog.atomic (attempt result.minor .paymentMismatch)
        Prog.atomic (require (trimSpace result.tradeNo ≠ "") .paymentMismatch)
        let order ← Prog.atomic (first Tbl.orders (·.id = result.serviceTradeNo) .recordNotFound)
        Prog.atomic (require (isEpayD2SProvider order.provider) .paymentMismatch)
        processVerifiedD2SPayment e order.provider.code result.tradeNo result.serviceTradeNo eventType minor "CNY" payload

/-! ## Stripe -/

inductive StripeEventType
  | checkoutSessionCompleted | checkoutSessionAsyncPaymentSucceeded | checkoutSessionExpired
  | checkoutSessionAsyncPaymentFailed | chargeRefunded | chargeDisputeCreated | chargeDisputeClosed
  | other (name : String)
  deriving DecidableEq

/-- The part of `stripe.Event` that is read: the values of its object are texts, empty where there is none. -/
structure StripeEvent where
  id : String
  type : StripeEventType
  paymentStatus : String := ""
  status : String := ""
  clientReferenceID : String := ""
  /-- an entry of the metadata -/
  d2sOrderID : String := ""
  amountTotal : String := ""
  amount : String := ""
  amountRefunded : String := ""
  currency : String := ""
  customer : String := ""
  customerEmail : String := ""
  customerDetailsEmail : String := ""

def stripeD2SPaymentEvent (event : StripeEvent) : Option String :=
  match event.type with
  | .checkoutSessionCompleted => if event.paymentStatus = "paid" then some "paid" else none
  | .checkoutSessionAsyncPaymentSucceeded => some "paid"
  | .checkoutSessionExpired => if event.status = "expired" then some "canceled" else none
  | .checkoutSessionAsyncPaymentFailed => some "failed"
  | .chargeRefunded => some "reversed"
  | .chargeDisputeCreated => some "chargeback"
  | .chargeDisputeClosed => if event.status = "lost" then some "chargeback" else none
  | .other _ => none

/-- Checkout sessions carry the order as a reference, refunds and disputes in their metadata. -/
def stripeD2SOrderID (event : StripeEvent) : String :=
  let reference := trimSpace event.clientReferenceID
  if reference ≠ "" then reference else trimSpace event.d2sOrderID

/-- `hmac` is the keyed digest under the secret of the server. -/
def d2sPaymentAccountIdentifierHash (hmac : String → String) (provider kind identifier : String) : String :=
  let provider := toLower (trimSpace provider)
  let kind := toLower (trimSpace kind)
  let identifier := trimSpace identifier
  if provider = "" ∨ identifier = "" ∨ (kind ≠ "customer" ∧ kind ≠ "email" ∧ kind ≠ "payment_method") then ""
  else hmac (provider ++ "|" ++ kind ++ "|" ++ if kind = "email" then toLower identifier else identifier)

def stripeD2SPaymentAccountIdentifierHash (hmac : String → String) (event : StripeEvent) : String :=
  let hash := d2sPaymentAccountIdentifierHash hmac "stripe"
  if trimSpace event.customer ≠ "" then hash "customer" (trimSpace event.customer)
  else if trimSpace event.customerDetailsEmail ≠ "" then hash "email" (trimSpace event.customerDetailsEmail)
  else hash "email" (trimSpace event.customerEmail)

/-- The amount in minor units, from the field that the type of the event has it in. -/
def StripeEvent.minor (event : StripeEvent) : Option ℤ :=
  let rawAmount := match event.type with
    | .chargeRefunded => event.amountRefunded
    | .chargeDisputeCreated | .chargeDisputeClosed => event.amount
    | _ => event.amountTotal
  (parseInt (trimSpace rawAmount)).filter (0 ≤ ·)

def StripeEvent.currencyCode (event : StripeEvent) : String := toUpper (trimSpace event.currency)

def processStripeD2SPayment [Digest] (hmac : String → String) (e : Env) (event : StripeEvent) (payload : String) :
    Call Bool :=
  match stripeD2SPaymentEvent event with
  | none => pure false
  | some eventType =>
    let orderID := stripeD2SOrderID event
    if trimSpace orderID = "" then pure false
    else do
      match ← d2sOrderOf orderID with
      | none => pure false
      | some _ =>
        let amountMinor ← Prog.atomic (attempt event.minor .paymentMismatch)
        processVerifiedD2SPayment e "stripe" event.id orderID eventType amountMinor event.currencyCode payload
          (some (stripeD2SPaymentAccountIdentifierHash hmac event))

end Desktop2Stereo
