import FlightBookings.Await.Logic
import FlightBookings.Payment.Database

/-! # The payment gateways

The registry of processors, and the two providers: Stripe, and PayPal, which is
not implemented.
-/

namespace FlightBookings.Payment

open Await

abbrev Call (α : Type) := Await.Call Op Op.Ret Exception Unit α

inductive Gateway where
  | stripe
  | paypal
deriving DecidableEq

structure PaymentResult where
  success : Bool
  transactionId : String
  amount : Nat
  currency : String
  status : String
  failureCode : Option String
  errorMessage : Option String
deriving DecidableEq

structure RefundResult where
  success : Bool
  refundId : String
  amount : Nat
  status : String
  errorMessage : Option String
deriving DecidableEq

/-! ## The registry -/

def PaymentMethod.processor : PaymentMethod → String
  | .card => "stripe"
  | .applePay => "stripe"
  | .googlePay => "stripe"
  | .paypal => "paypal"
  | .crypto => "crypto"

namespace Gateway

def getGatewayName : Gateway → String
  | .stripe => "stripe"
  | .paypal => "paypal"

def registry : List Gateway := [.stripe, .paypal]

def getByName (processorName : String) : Except Exception Gateway :=
  match registry.find? fun gateway => gateway.getGatewayName = toLowerCase processorName with
  | some gateway => .ok gateway
  | none =>
      .error (.error (s!"Unknown payment processor: \"{processorName}\". Available: [" ++
        String.intercalate ", " (registry.map getGatewayName) ++ "]"))

/-- No default processor is configured, which leaves `stripe`. -/
def resolve (paymentMethod : Option PaymentMethod) (gatewayOverride : Option String) :
    Except Exception Gateway :=
  if orElse gatewayOverride "" = "" then
    match paymentMethod with
    | some method => getByName method.processor
    | none => getByName "stripe"
  else getByName (orElse gatewayOverride "")

def unsupported {α : Type} (operation : String) : Call α :=
  throw (Exception.notImplemented
    s!"PayPal {operation} is not available yet. Use Stripe or add PayPal Orders v2.")

/-! ## The operations of a provider -/

/-- The intent itself stands for the record that the provider copies from it. -/
def createPaymentIntent (gateway : Gateway) (amount : Nat) (currency : String)
    (metadata : Metadata) : Call StripeIntent :=
  match gateway with
  | .stripe => Call.await (Op.stripe (.create amount (toLowerCase currency) metadata))
  | .paypal => unsupported "createPaymentIntent"

def captured (updated : StripeIntent) : PaymentResult :=
  let success : Bool := updated.status = "succeeded"
  { success
    transactionId := updated.id
    amount := updated.amount
    currency := toUpperCase updated.currency
    status := updated.status
    failureCode := updated.lastPaymentError.bind Prod.fst
    errorMessage := if success then none else updated.lastPaymentError.bind Prod.snd }

def captureFailed (gatewayPaymentId : String) (error : Exception) : PaymentResult where
  success := false
  transactionId := gatewayPaymentId
  amount := 0
  currency := "USD"
  status := "failed"
  failureCode := none
  errorMessage := some error.message

def capturePayment (gateway : Gateway) (gatewayPaymentId : String) : Call PaymentResult :=
  match gateway with
  | .stripe =>
      tryCatch
        (do
          let paymentIntent : StripeIntent ← Call.await (Op.stripe (.retrieve gatewayPaymentId))
          Call.whenever (paymentIntent.status = "requires_confirmation") <|
            Call.await (Op.stripe (.confirm gatewayPaymentId))
          Call.whenever (paymentIntent.status = "requires_capture") <|
            Call.await (Op.stripe (.capture gatewayPaymentId))
          let updated : StripeIntent ← Call.await (Op.stripe (.retrieve gatewayPaymentId))
          pure (captured updated))
        fun error => pure (captureFailed gatewayPaymentId error)
  | .paypal => unsupported "capturePayment"

def refundPayment (gateway : Gateway) (transactionId : String) (amount : Nat)
    (reason : Option String) : Call RefundResult :=
  match gateway with
  | .stripe =>
      tryCatch
        (do
          let refund : StripeRefund ← Call.await (Op.stripe (.refund transactionId amount reason))
          pure
            { success := refund.status = "succeeded"
              refundId := refund.id
              amount := refund.amount
              status := refund.status
              errorMessage := none })
        fun error => pure
          { success := false
            refundId := ""
            amount
            status := "failed"
            errorMessage := some error.message }
  | .paypal => unsupported "refundPayment"

end Gateway

end FlightBookings.Payment
