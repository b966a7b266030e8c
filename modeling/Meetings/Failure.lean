/-
Why a request, a participant or a booking is refused.

* `FailureKind` — the seven kinds that callers tell apart;
* `BookingFault`, `NameFault`, `RequestFault`, `NameRequestFault` — the rules of
  bookings, of names and of requests for either, in the order in which they are
  checked;
* `Failure` — every reason an operation reports, with `Failure.kind` and
  `Failure.message`.

Design notes: reasons are causes.  Their wording is here and nowhere else, so
that a statement about a refusal never mentions text.
-/
import Meetings.Lenient.Fault
import Meetings.Text.Digits

namespace Meetings

open Meetings.Text

/-- The kinds of failure that callers tell apart. -/
inductive FailureKind where
  | participants
  | duration
  | timeRange
  | outsideHours
  | noSlot
  | unknownParticipant
  | participantName
deriving DecidableEq, Repr

/-- The code of a kind in answers and messages. -/
def FailureKind.code : FailureKind → String
  | participants => "invalid_participants"
  | duration => "invalid_duration"
  | timeRange => "invalid_time_range"
  | outsideHours => "outside_business_hours"
  | noSlot => "no_available_slot"
  | unknownParticipant => "participant_not_found"
  | participantName => "invalid_participant_name"

/-- The rules of a booking that can be broken. -/
inductive BookingFault where
  | startsTooLate
  | outsideHours
  | nobody
  | repeatedParticipant
deriving DecidableEq, Repr

/-- The kind a broken rule belongs to. -/
def BookingFault.kind : BookingFault → FailureKind
  | startsTooLate => .timeRange
  | outsideHours => .outsideHours
  | nobody | repeatedParticipant => .participants

/-- What a broken rule of a booking says. -/
def BookingFault.message : BookingFault → String
  | startsTooLate => "Meeting start time must be before end time"
  | outsideHours => "Meeting must be scheduled within business hours (09:00-17:00 UTC)"
  | nobody => "Meeting must have at least one participant"
  | repeatedParticipant => "Duplicate participants are not allowed"

/-- The most characters a name may have. -/
def nameLimit : Nat := 100

/-- The rules of a participant's name that can be broken. -/
inductive NameFault where
  /-- The name is a value of another kind. -/
  | notText (kindName : String)
  | blank
  | tooLong
deriving DecidableEq, Repr

/-- What a broken rule of a name says. -/
def NameFault.message : NameFault → String
  | notText kindName => "Participant name must be text, got " ++ kindName
  | blank => "Participant name cannot be empty"
  | tooLong => "Participant name cannot exceed " ++ decimal nameLimit ++ " characters"

/-- The longest window of a request in days. -/
def windowLimit : Nat := 30

/-- The shortest meeting that may be requested, in minutes. -/
def shortestMeeting : Int := 15

/-- The longest meeting that may be requested, in minutes. -/
def longestMeeting : Int := 480

/-- The minutes by which requested durations and starts are spaced. -/
def standardQuantum : Int := 15

/-- The fields of a request for a meeting, in the order of their checks. -/
inductive RequestField where
  | participants
  | duration
  | earliestStart
  | latestEnd
deriving DecidableEq, Repr

/-- The rules of a request for a meeting that can be broken. -/
inductive RequestFault where
  /-- A field does not hold a suitable value. -/
  | unreadable (field : RequestField) (fault : LenientFault)
  | nobody
  | idNotPositive
  | repeatedParticipant
  | tooMany (limit : Int)
  | notPositive
  | tooBrief
  | tooLengthy
  | offGrid
  | windowInverted
  | windowTooShort
  | windowTooLong
  | inThePast
deriving DecidableEq, Repr

/-- The kind a broken rule of a request belongs to. -/
def RequestFault.kind : RequestFault → FailureKind
  | unreadable .participants _ => .participants
  | unreadable .duration _ => .duration
  | unreadable _ _ => .timeRange
  | nobody | idNotPositive | repeatedParticipant | tooMany _ => .participants
  | notPositive | tooBrief | tooLengthy | offGrid => .duration
  | windowInverted | windowTooShort | windowTooLong | inThePast => .timeRange

/-- What a broken rule of a request says. -/
def RequestFault.message : RequestFault → String
  | unreadable _ fault => fault.message
  | nobody => "At least one participant is required"
  | idNotPositive => "All participant IDs must be greater than 0"
  | repeatedParticipant => "Duplicate participants are not allowed"
  | tooMany limit =>
    "Cannot have more than " ++ signedDecimal limit ++ " participants in a meeting"
  | notPositive => "Duration must be greater than 0 minutes"
  | tooBrief => "Minimum meeting duration is " ++ signedDecimal shortestMeeting ++ " minutes"
  | tooLengthy => "Duration cannot exceed " ++ signedDecimal longestMeeting ++ " minutes"
  | offGrid =>
    "Duration must be in " ++ signedDecimal standardQuantum ++ "-minute increments"
  | windowInverted => "Earliest start time must be before latest end time"
  | windowTooShort => "The meeting duration must fit within the specified time range"
  | windowTooLong => "Time range cannot exceed " ++ decimal windowLimit ++ " days"
  | inThePast => "Earliest start time must be in the future"

/-- The rules of a request for a new participant that can be broken. -/
inductive NameRequestFault where
  /-- The name is missing or is no text. -/
  | unreadable (fault : LenientFault)
  | blank
  | tooLong
  | badCharacter
deriving DecidableEq, Repr

/-- What a broken rule of a request for a participant says. -/
def NameRequestFault.message : NameRequestFault → String
  | unreadable fault => fault.message
  | blank => "Participant name is required"
  | tooLong => NameFault.message .tooLong
  | badCharacter =>
    "Participant name can only contain letters, spaces, hyphens, apostrophes, and periods"

/-- Every reason an operation reports. -/
inductive Failure where
  | request (fault : RequestFault)
  | nameRequest (fault : NameRequestFault)
  | booking (fault : BookingFault)
  | name (fault : NameFault)
  | unknownParticipant (id : Int)
  | noSlot
deriving DecidableEq, Repr

/-- The kind of a reason. -/
def Failure.kind : Failure → FailureKind
  | request fault => fault.kind
  | nameRequest _ | name _ => .participantName
  | booking fault => fault.kind
  | unknownParticipant _ => .unknownParticipant
  | noSlot => .noSlot

/-- What a reason says. -/
def Failure.message : Failure → String
  | request fault => fault.message
  | nameRequest fault => fault.message
  | booking fault => fault.message
  | name fault => fault.message
  | unknownParticipant id =>
    "The participant with id '" ++ signedDecimal id ++ "' was not found"
  | noSlot => "No available time slot found within the specified constraints"

end Meetings
