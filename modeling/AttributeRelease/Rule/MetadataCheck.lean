import AttributeRelease.Request.Basic
import AttributeRelease.Rule.StringMatch

/-!
# Checks of metadata

Conditions on the published metadata of a party. A party without metadata passes none of them.
-/

namespace AttributeRelease

/-- A condition on the metadata of a party. -/
inductive MetadataCheck where
  /-- An entity attribute with the name, and the format if one is given, has a value that passes. -/
  | entityAttribute (party : Party) (name : String) (format : Option String) (test : StringMatch)
  /-- The requester supports the name format. -/
  | nameIdFormat (format : String)
  /-- The requester was registered by one of the authorities; without a registration in the
  metadata, the answer is fixed. -/
  | registrationAuthority (authorities : List String) (ifSilent : Bool)
  /-- The party belongs to the group. -/
  | entityGroup (party : Party) (group : String)

namespace MetadataCheck

/-- Whether the condition holds for a request. -/
def holds (request : Request) : MetadataCheck → Bool
  | entityAttribute party name format test =>
    (request.metadata? party).any fun entity =>
      (entity.attributeValues name format).any fun value => test.accepts value
  | nameIdFormat format =>
    (request.metadata? .requester).any fun entity => entity.nameIdFormats.contains format
  | registrationAuthority authorities ifSilent =>
    (request.metadata? .requester).any fun entity =>
      match entity.registrationAuthority with
      | none => ifSilent
      | some authority => authorities.contains authority
  | entityGroup party group =>
    (request.metadata? party).any fun entity => entity.groups.contains group

end MetadataCheck

end AttributeRelease
