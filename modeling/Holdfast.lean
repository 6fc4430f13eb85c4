import Holdfast.Catalogue
import Holdfast.Config
import Holdfast.Credentials
import Holdfast.Day
import Holdfast.Hold
import Holdfast.Http.Header
import Holdfast.Http.MediaType
import Holdfast.Http.Message
import Holdfast.Http.Route
import Holdfast.Http.Target
import Holdfast.Json.Basic
import Holdfast.Json.Numeral
import Holdfast.Json.Printer
import Holdfast.Json.Reader
import Holdfast.Json.Shape
import Holdfast.Json.Token
import Holdfast.Metric
import Holdfast.Proofs.Bookings
import Holdfast.Proofs.Catalogue
import Holdfast.Proofs.Conduct.Acquire
import Holdfast.Proofs.Conduct.Call
import Holdfast.Proofs.Conduct.Changing
import Holdfast.Proofs.Conduct.Commit
import Holdfast.Proofs.Conduct.Composition
import Holdfast.Proofs.Conduct.Contents
import Holdfast.Proofs.Conduct.Course
import Holdfast.Proofs.Conduct.Deciding
import Holdfast.Proofs.Conduct.Decoding
import Holdfast.Proofs.Conduct.Episodes
import Holdfast.Proofs.Conduct.Indifference
import Holdfast.Proofs.Conduct.Listing
import Holdfast.Proofs.Conduct.Looking
import Holdfast.Proofs.Conduct.Passage
import Holdfast.Proofs.Conduct.Release
import Holdfast.Proofs.Conduct.Reporting
import Holdfast.Proofs.Conduct.Step
import Holdfast.Proofs.Conduct.Telling
import Holdfast.Proofs.Conduct.Trying
import Holdfast.Proofs.Day
import Holdfast.Proofs.Guarantees.Admittance
import Holdfast.Proofs.Guarantees.AllOrNothing
import Holdfast.Proofs.Guarantees.Announcements
import Holdfast.Proofs.Guarantees.Anonymity
import Holdfast.Proofs.Guarantees.BookedFinal
import Holdfast.Proofs.Guarantees.BookingFence
import Holdfast.Proofs.Guarantees.CatalogueHistory
import Holdfast.Proofs.Guarantees.CommitSoundness
import Holdfast.Proofs.Guarantees.CommitTruth
import Holdfast.Proofs.Guarantees.ConnectionHold
import Holdfast.Proofs.Guarantees.DealsCommute
import Holdfast.Proofs.Guarantees.EmptyRooms
import Holdfast.Proofs.Guarantees.EventOrder
import Holdfast.Proofs.Guarantees.EvictionUnseen
import Holdfast.Proofs.Guarantees.FaithfulListing
import Holdfast.Proofs.Guarantees.FirstLooks
import Holdfast.Proofs.Guarantees.HoldRemoval
import Holdfast.Proofs.Guarantees.KeysApart
import Holdfast.Proofs.Guarantees.MutualExclusion
import Holdfast.Proofs.Guarantees.OneHold
import Holdfast.Proofs.Guarantees.OneSubscription
import Holdfast.Proofs.Guarantees.OptimisticLocking
import Holdfast.Proofs.Guarantees.OrderlyStop
import Holdfast.Proofs.Guarantees.PagedScan
import Holdfast.Proofs.Guarantees.RealInstants
import Holdfast.Proofs.Guarantees.RefusedBooking
import Holdfast.Proofs.Guarantees.ReleaseOnce
import Holdfast.Proofs.Guarantees.RoomDelivery
import Holdfast.Proofs.Guarantees.SpectatorView
import Holdfast.Proofs.Guarantees.StartUp
import Holdfast.Proofs.Guarantees.Strangers
import Holdfast.Proofs.Guarantees.StrayCursor
import Holdfast.Proofs.Guarantees.TenantRegistry
import Holdfast.Proofs.Guarantees.ViewsAgree
import Holdfast.Proofs.Guarantees.WellTyped
import Holdfast.Proofs.Guarantees.WireFormats
import Holdfast.Proofs.Hold
import Holdfast.Proofs.Http.Fields
import Holdfast.Proofs.Interleaving.Deed
import Holdfast.Proofs.Interleaving.Hearing
import Holdfast.Proofs.Interleaving.Moves
import Holdfast.Proofs.Interleaving.Pledge
import Holdfast.Proofs.Interleaving.Run
import Holdfast.Proofs.Interleaving.Steps
import Holdfast.Proofs.Json.RoundTrip
import Holdfast.Proofs.Json.Shape
import Holdfast.Proofs.Json.Tagged
import Holdfast.Proofs.Json.Tokens
import Holdfast.Proofs.Register.Acquire
import Holdfast.Proofs.Register.Alone
import Holdfast.Proofs.Register.Announcing
import Holdfast.Proofs.Register.Answers
import Holdfast.Proofs.Register.Basic
import Holdfast.Proofs.Register.Connections
import Holdfast.Proofs.Register.Deals
import Holdfast.Proofs.Register.Episodes
import Holdfast.Proofs.Register.Labels
import Holdfast.Proofs.Register.Listing
import Holdfast.Proofs.Register.Mirror
import Holdfast.Proofs.Register.Ready
import Holdfast.Proofs.Register.Release
import Holdfast.Proofs.Register.Renaming
import Holdfast.Proofs.Register.Snapshot
import Holdfast.Proofs.Register.Telling
import Holdfast.Proofs.Register.Twins
import Holdfast.Proofs.Room.Attendance
import Holdfast.Proofs.Room.Deserted
import Holdfast.Proofs.Room.Forwarding
import Holdfast.Proofs.Room.Gathering
import Holdfast.Proofs.Room.Mailbox
import Holdfast.Proofs.Room.Spectator
import Holdfast.Proofs.Room.Stays
import Holdfast.Proofs.Room.View
import Holdfast.Proofs.Service.Attending
import Holdfast.Proofs.Service.Clients
import Holdfast.Proofs.Service.Hall
import Holdfast.Proofs.Service.Requests
import Holdfast.Proofs.Service.Steady
import Holdfast.Proofs.SessionId
import Holdfast.Proofs.SortedMap
import Holdfast.Proofs.Store.KeyLayout
import Holdfast.Proofs.Store.Moments
import Holdfast.Proofs.Store.Pages
import Holdfast.Proofs.Store.Scans
import Holdfast.Proofs.Store.Sight
import Holdfast.Proofs.Store.Versions
import Holdfast.Proofs.Store.Watches
import Holdfast.Proofs.Store.Writes
import Holdfast.Proofs.Store.Written
import Holdfast.Proofs.Tenancy
import Holdfast.Proofs.Text.Digits
import Holdfast.Proofs.Text.Trimming
import Holdfast.Rehearsal.Enrolment
import Holdfast.Rehearsal.Script
import Holdfast.Rehearsal.Stage
import Holdfast.Rehearsal.Traffic
import Holdfast.Reservation.Acquire
import Holdfast.Reservation.Ask
import Holdfast.Reservation.Availability
import Holdfast.Reservation.Commit
import Holdfast.Reservation.Connection
import Holdfast.Reservation.Expiry
import Holdfast.Reservation.Failure
import Holdfast.Reservation.Outcome
import Holdfast.Reservation.Program
import Holdfast.Reservation.Release
import Holdfast.Reservation.World
import Holdfast.Room.Event
import Holdfast.Room.Hub
import Holdfast.Seed
import Holdfast.Service.Basic
import Holdfast.Service.Connection
import Holdfast.Service.Drain
import Holdfast.Service.Handle
import Holdfast.Service.Reply
import Holdfast.Service.Schedule
import Holdfast.SessionId
import Holdfast.Slot
import Holdfast.Socket.Frame
import Holdfast.SortedMap
import Holdfast.Store.Basic
import Holdfast.Store.Key
import Holdfast.Store.Request
import Holdfast.Store.Scan
import Holdfast.Store.Transaction
import Holdfast.Store.Value
import Holdfast.Tenancy
import Holdfast.Text.Alphanumeric
import Holdfast.Text.Blank
import Holdfast.Text.Decimal
import Holdfast.Text.Hex
import Holdfast.Text.Octets
import Holdfast.Text.Percent
import Holdfast.Text.Printable
import Holdfast.Text.Quoted
import Holdfast.Text.Ranges
