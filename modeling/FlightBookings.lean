import FlightBookings.Booking.Cleanup
import FlightBookings.Booking.Idempotency
import FlightBookings.Payment.Idempotency
import FlightBookings.Payment.Announcement
import FlightBookings.Payment.Pairs
import FlightBookings.Payment.Deliveries
import FlightBookings.RateLimiter.Window
import FlightBookings.Inventory.Conservation
import FlightBookings.Auth.SignOut
import FlightBookings.Auth.Acceptance
import FlightBookings.Auth.Isolation
import FlightBookings.Auth.Entitlement
import FlightBookings.Errors.Hop
import FlightBookings.Outbox.DeadLetter
import FlightBookings.RateLimiter.Blocking
import FlightBookings.SeatLock.Availability
import FlightBookings.Booking.Extension
import FlightBookings.Booking.Agreement
import FlightBookings.Flight.Entities
import FlightBookings.Flight.Listing
import FlightBookings.Payment.Reports
import FlightBookings.Payment.Standing
import FlightBookings.RateLimiter.Status
import FlightBookings.RateLimiter.RetryAfter
import FlightBookings.Logging.Json
import FlightBookings.Logging.Body
import FlightBookings.Logging.Secrets
import FlightBookings.Payment.Locating
import FlightBookings.Booking.Grants
import FlightBookings.Booking.SeatCount
import FlightBookings.Booking.Completion
import FlightBookings.Flight.CityNames
import FlightBookings.Flight.Seats
import FlightBookings.Outbox.Drain
import FlightBookings.Checkout.Paid
import FlightBookings.Inventory.Settled
import FlightBookings.Gateway.Access
import FlightBookings.RateLimiter.Quota
import FlightBookings.Messaging.Once
import FlightBookings.Catalogue.Schedule
import FlightBookings.Outbox.Retention
