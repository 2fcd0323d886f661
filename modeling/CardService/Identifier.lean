/-!
# CardService — identifiers

Opaque texts that name things of one kind each. They are ordered by code points, which is the order
of their UTF-8 bytes.
-/

namespace CardService

/-- What an identifier names. -/
inductive IdentifierKind where
  | fundingSource
  | card
  | transaction
  | owner
  | subscription
  deriving DecidableEq

/-- The name of a thing of some kind. -/
structure Identifier (kind : IdentifierKind) where
  text : String
  deriving DecidableEq

abbrev FundingSourceId := Identifier .fundingSource
abbrev CardId := Identifier .card
abbrev TransactionId := Identifier .transaction
abbrev OwnerId := Identifier .owner
abbrev SubscriptionId := Identifier .subscription

namespace Identifier

variable {kind : IdentifierKind}

/-- The order of two identifiers. -/
def compare (a b : Identifier kind) : Ordering := compareOfLessAndEq a.text b.text

/-- The text of an identifier behind as many spaces as make it `width` characters long. -/
def padLeft (width : Nat) (id : Identifier kind) : String :=
  String.ofList (List.replicate (width - id.text.length) ' ') ++ id.text

/-- The first `length` characters of an identifier. -/
def clip (length : Nat) (id : Identifier kind) : String :=
  String.ofList (id.text.toList.take length)

end Identifier

end CardService
