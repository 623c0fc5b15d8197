import CallGraphs.Value.Access
import CallGraphs.Value.MemberTable
/-!
# Members of values

Which names a value answers to, be it with data or not.
-/

namespace CallGraphs

namespace Value

/-- The names that a value answers to beside its fields and those that every value answers to. -/
def ownMembers : Value → List String
  | null => ["__bool__"]
  | bool _ | int _ => Members.number
  | float _ => Members.real
  | text _ => Members.text
  | kind _ => Members.object ++ Members.kind ++ Members.text
  | list _ => Members.list
  | tuple _ => Members.tuple
  | record _ => Members.dict
  | mapping _ => Members.object ++ Members.mapping
  | context .. => "get_method" :: Members.object ++ Members.record
  | instruction .. => Members.object ++ Members.record
  | site .. =>
    ["get_calling_context", "get_call_node", "sort_key"] ++ Members.object ++ Members.record
  | sensitive .. => ["call_site", "to_insensitive"] ++ Members.object ++ Members.record
  | insensitive .. => Members.object ++ Members.record
  | bare _ | unit _ => Members.object
  | unitTuple .. => Members.objectTuple ++ Members.tuple
  | host .. => "get_method" :: Members.object
  | halfSite _ => "get_calling_context" :: Members.object
  | badContext _ => "get_method" :: Members.object
  | badSite _ => ["get_calling_context", "get_call_node"] ++ Members.object

/-- Whether a value answers to a name. -/
def hasMember (v : Value) (name : Text) : Bool :=
  (v.attributes.lookup name).isSome || (Members.common ++ v.ownMembers).any fun s => s == name

end Value

end CallGraphs
