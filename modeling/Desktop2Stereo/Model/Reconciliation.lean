import Desktop2Stereo.Model.Orders

/-!
# Reconciliation of payments

`ReconcileD2SPayments` reports on a window of time, from one snapshot of the database: the orders created in the
window, the payment events processed in it, and where orders and events do not fit together.
-/

namespace Desktop2Stereo

open Relational

inductive MismatchKind
  | pendingExpired | orphanPaymentEvent | paymentOrderMismatch | paidOrderNotSettled | cancelEventNotSettled
  | reversalNotSettled | paidOrderWithoutPaymentEvent
  deriving DecidableEq, Repr

structure D2SReconciliationMismatch where
  orderID : String := ""
  providerEventID : String := ""
  kind : MismatchKind
  deriving DecidableEq, Repr

structure D2SReconciliationReport where
  startAt : ℤ
  endAt : ℤ
  orders : ℕ := 0
  paymentEvents : ℕ := 0
  paidOrders : ℕ := 0
  chargebackOrders : ℕ := 0
  pendingExpired : ℕ := 0
  mismatches : List D2SReconciliationMismatch := []
  deriving DecidableEq, Repr

def D2SReconciliationReport.counted (report : D2SReconciliationReport) (order : D2SOrder) : D2SReconciliationReport :=
  match order.status with
  | .paid => { report with paidOrders := report.paidOrders + 1 }
  | .chargeback => { report with chargebackOrders := report.chargebackOrders + 1 }
  | .pending | .canceled => report

def D2SReconciliationReport.add (report : D2SReconciliationReport) (mismatch : D2SReconciliationMismatch) :
    D2SReconciliationReport :=
  { report with mismatches := report.mismatches ++ [mismatch] }

def D2SReconciliationReport.addExpired (report : D2SReconciliationReport) (order : D2SOrder) : D2SReconciliationReport :=
  { report with pendingExpired := report.pendingExpired + 1 }.add { orderID := order.id, kind := .pendingExpired }

/-- The variables of the loop over the payment events. -/
structure Reconciliation where
  report : D2SReconciliationReport
  /-- the orders read so far; the map of the source is keyed by their ids -/
  orderByID : List D2SOrder
  /-- the ids of the orders with a paid event -/
  paidExternalEvents : List String

def reconcileOrderEvent (r : Reconciliation) (event : D2SPaymentEvent) (order : D2SOrder) : Reconciliation :=
  let mismatch (kind : MismatchKind) : D2SReconciliationMismatch :=
    { orderID := order.id, providerEventID := event.providerEventID, kind }
  let report :=
    if event.amountMinor ≠ order.gatewayMinor ∨ event.currency ≠ order.currency.code ∨ event.provider ≠ order.provider
    then r.report.add (mismatch .paymentOrderMismatch) else r.report
  let report :=
    match event.eventType with
    | .paid =>
      if order.status ≠ .paid ∧ order.status ≠ .chargeback then report.add (mismatch .paidOrderNotSettled) else report
    | .canceled | .failed =>
      if order.status ≠ .canceled then report.add (mismatch .cancelEventNotSettled) else report
    | .chargeback | .reversed =>
      if order.status ≠ .chargeback then report.add (mismatch .reversalNotSettled) else report
    | .other _ => report
  { r with
    report
    paidExternalEvents :=
      if event.eventType = .paid ∧ 0 < order.gatewayMinor then order.id :: r.paidExternalEvents
      else r.paidExternalEvents }

/-- One round of the loop over the payment events. An order from outside the window is read and counted when
its first event comes up. -/
def reconcileEvent (queryDB : DB) (r : Reconciliation) (event : D2SPaymentEvent) : Reconciliation :=
  match r.orderByID.find? (·.id = event.orderID) with
  | some order => reconcileOrderEvent r event order
  | none =>
    match queryDB.orders.find? (·.id = event.orderID) with
    | none =>
      { r with
        report := r.report.add
          { orderID := event.orderID, providerEventID := event.providerEventID, kind := .orphanPaymentEvent } }
    | some order =>
      let report := { r.report with orders := r.report.orders + 1 }
      reconcileOrderEvent { r with report := report.counted order, orderByID := order :: r.orderByID } event order

/-- An order of the window is paid, and no event of the window has paid it. -/
def Reconciliation.addUnpaid (r : Reconciliation) (report : D2SReconciliationReport) (order : D2SOrder) :
    D2SReconciliationReport :=
  if order.status = .paid ∧ 0 < order.gatewayMinor ∧ order.id ∉ r.paidExternalEvents
  then report.add { orderID := order.id, kind := .paidOrderWithoutPaymentEvent } else report

def DB.ordersCreated (queryDB : DB) (startAt endAt : ℤ) : List D2SOrder :=
  queryDB.orders.rows.filter fun o => startAt ≤ o.createdAt ∧ o.createdAt < endAt

def DB.eventsProcessed (queryDB : DB) (startAt endAt : ℤ) : List D2SPaymentEvent :=
  queryDB.paymentEvents.rows.filter fun v => startAt ≤ v.processedAt ∧ v.processedAt < endAt

/-- The report before the loop over the payment events. -/
def reconcileOrders (queryDB : DB) (startAt endAt : ℤ) : D2SReconciliationReport :=
  let orders := queryDB.ordersCreated startAt endAt
  let report : D2SReconciliationReport := { startAt, endAt, orders := orders.length }
  let report := orders.foldl D2SReconciliationReport.counted report
  let expiredPendingOrders := queryDB.orders.rows.filter fun o =>
    o.status = .pending ∧ 0 < o.expiresAt ∧ o.expiresAt < endAt
  let report := expiredPendingOrders.foldl D2SReconciliationReport.addExpired report
  { report with paymentEvents := (queryDB.eventsProcessed startAt endAt).length }

/-- The loop over the payment events. -/
def reconcileEvents (queryDB : DB) (startAt endAt : ℤ) : Reconciliation :=
  (queryDB.eventsProcessed startAt endAt).foldl (reconcileEvent queryDB)
    { report := reconcileOrders queryDB startAt endAt, orderByID := queryDB.ordersCreated startAt endAt
      paidExternalEvents := [] }

def reconcileD2SPaymentsSnapshot (queryDB : DB) (startAt endAt : ℤ) : D2SReconciliationReport :=
  let r := reconcileEvents queryDB startAt endAt
  (queryDB.ordersCreated startAt endAt).foldl r.addUnpaid r.report

/-- The snapshot is read in one transaction, which writes nothing. -/
def reconcileD2SPayments (startAt endAt : ℤ) : Tx D2SReconciliationReport := do
  require (0 < startAt ∧ startAt < endAt) .reconciliationWindow
  return reconcileD2SPaymentsSnapshot (← get) startAt endAt

end Desktop2Stereo
