import LivePipeline.DataType.Union

/-! What a type test leaves of a type, on the side where it holds and on the other side. -/

namespace LivePipeline.DataType

/-- Objects meet an object that asks for some of their properties; nothing else meets an object. -/
def meetsPlain : DataType → DataType → Bool
  | object actual _, object want _ =>
    want.all fun (name, type) => (Table.get? actual name).any (compatible · type)
  | object _ _, _ => false
  | _, object _ _ => false
  | member, target => compatible member target

mutual

/-- Whether a member passes a test for `target`; a union target asks for one of its members. -/
def meets (member : DataType) : DataType → Bool
  | reference target => meets member target
  | union targets _ => meetsAny member targets
  | target => meetsPlain member.dereference target

def meetsAny (member : DataType) : List DataType → Bool
  | [] => false
  | target :: rest => meets member target || meetsAny member rest

end

/-- The part of `type` that passes a test for `target`. The active member stays active. -/
def narrow (type target : DataType) : DataType :=
  match type.dereference with
  | unknown => target
  | union members active =>
    let kept := members.filter (meets · target)
    let place := (activeMember? members active).bind fun member => kept.findIdx? (beq · member)
    unionWith false place kept
  | other => if meets other target then other else never

/-- The part of `type` that fails a test for `target`. -/
def exclude (type target : DataType) : DataType :=
  match type.dereference with
  | unknown => unknown
  | union members _ => unionOf (members.filter fun member => !meets member target)
  | other => if meets other target then never else other

end LivePipeline.DataType
