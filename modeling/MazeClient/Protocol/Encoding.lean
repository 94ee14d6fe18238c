import MazeClient.Protocol.TaskRpc
import MazeClient.Session.ServerCommand

set_option autoImplicit false

namespace MazeClient

open Wire

def CommandIdentity.fields (command : CommandIdentity) : List Field :=
  bytesField 1 (ofString command.sessionId) ++ varintField 2 command.sessionEpoch ++
    varintField 3 command.sequence ++ bytesField 4 (ofString command.episodeId)

def MapDescriptor.fields (map : MapDescriptor) : List Field :=
  bytesField 1 (ofString map.mapId) ++ varintField 2 map.gridColumns ++
    varintField 3 map.gridRows ++ varintField 4 map.gridSizeMicrounits ++
    varintField 5 (ofInt map.startGridX) ++ varintField 6 (ofInt map.startGridY) ++
    varintField 7 (ofInt map.goalGridX) ++ varintField 8 (ofInt map.goalGridY) ++
    bytesField 9 map.blockedBitmap

def Binary32.field (number : Nat) (value : Binary32) : List Field :=
  if value.bits = 0 then []
  else
    let byte (i : Nat) : UInt8 := UInt8.ofNat (value.bits.toNat / 256 ^ i)
    [⟨number, .fixed32 (byte 0) (byte 1) (byte 2) (byte 3)⟩]

def Vec2.fields (position : Vec2) : List Field :=
  position.x.field 1 ++ position.y.field 2

def AgentState.fields (state : AgentState) : List Field :=
  varintField 1 state.agentId ++
    messageField 2 (state.position.map fun position => encodeFields position.fields) ++
    varintField 3 state.isDone.toNat ++ varintField 4 (ofInt state.terminationReason.number) ++
    varintField 5 state.lastMoveBlocked.toNat ++
    -- An optional field is written whenever it is set, 0 included.
    (state.executedActionId.toList.map fun action => ⟨6, .varint (ofInt action)⟩) ++
    bytesField 7 (state.actionMask.map fun bit => UInt8.ofNat bit.toNat)

def TaskRpc.payloadFields : {rpc : TaskRpc} → rpc.Request → List Field
  | .init, request => messageField 2 (request.map.map fun map => encodeFields map.fields)
  | .update, request =>
      varintField 2 request.frameId ++
        request.agents.map fun state => ⟨3, .bytes (encodeFields state.fields)⟩
  | .abortEpisode, request =>
      varintField 2 (ofInt request.reason.number) ++ bytesField 3 (ofString request.message)
  | .beginEpisode, _ => []
  | .endEpisode, _ => []
  | .closeSession, _ => []

def TaskRpc.fields {rpc : TaskRpc} (request : rpc.Request) : List Field :=
  messageField 1 ((command? request).map fun command => encodeFields command.fields) ++
    payloadFields request

def TaskRpc.serialize {rpc : TaskRpc} (request : rpc.Request) : Bytes :=
  encodeFields (fields request)

def CommandReply.fields (reply : CommandReply) : List Field :=
  varintField 1 (ofInt reply.result.number) ++ varintField 2 (ofInt reply.errorCode.number) ++
    bytesField 3 (ofString reply.message) ++ varintField 4 reply.appliedSequence ++
    varintField 5 (ofInt reply.phase.number)

def CommandReply.ofFields (fields : List Field) : Option CommandReply :=
  (toString? ((lastBytes 3 fields).getD [])).map fun message =>
    { result := .ofNumber (toInt32 (lastVarint 1 fields))
      errorCode := .ofNumber (toInt32 (lastVarint 2 fields))
      message
      appliedSequence := lastVarint 4 fields
      phase := .ofNumber (toInt32 (lastVarint 5 fields)) }

theorem CommandReply.ofFields_fields (reply : CommandReply) :
    ofFields reply.fields = some reply := by
  simp [ofFields, fields, lastBytes, lastVarint, filterMap_varintField, filterMap_bytesField,
    toString?_ofString, CommandResult.ofNumber_number, CommandErrorCode.ofNumber_number,
    SessionPhase.ofNumber_number]

theorem no_fields : ∀ f ∈ ([] : List Field), f.number ≠ 1 := by simp

structure WireResponse where
  reply : CommandReply := {}
  payload : { fields : List Field // ∀ f ∈ fields, f.number ≠ 1 } := ⟨[], no_fields⟩

def WireResponse.fields (response : WireResponse) : List Field :=
  ⟨1, .bytes (encodeFields response.reply.fields)⟩ :: response.payload.val

def WireResponse.ofFields (fields : List Field) : Option WireResponse :=
  let rest := fields.filter fun f => f.number ≠ 1
  ((parseFields ((lastBytes 1 fields).getD [])).bind CommandReply.ofFields).map fun reply =>
    { reply, payload := ⟨rest, by simp [rest]⟩ }

theorem WireResponse.ofFields_fields (response : WireResponse) :
    ofFields response.fields = some response := by
  obtain ⟨reply, payload, distinct⟩ := response
  have others : payload.filterMap (bytesOf 1) = [] := by
    apply List.filterMap_eq_nil_iff.mpr
    rintro ⟨number, value⟩ member
    have := distinct _ member
    cases value <;> simp_all [bytesOf]
  have kept : payload.filter (fun f => decide (f.number ≠ 1)) = payload :=
    List.filter_eq_self.mpr (by simpa using distinct)
  simp [ofFields, fields, lastBytes, bytesOf, others, CommandReply.ofFields_fields]
  simpa using kept

def WireResponse.codec : Codec WireResponse where
  encode response := encodeFields response.fields
  decode input := (parseFields input).bind ofFields
  decode_encode response := by simp [ofFields_fields]

-- The generated response classes, of which the command protocol reads the reply only.
structure TaskResponses where
  Response : TaskRpc → Type
  reply : {rpc : TaskRpc} → Response rpc → CommandReply
  withReply : {rpc : TaskRpc} → Response rpc → CommandReply → Response rpc
  reply_withReply : ∀ {rpc : TaskRpc} (response : Response rpc) (commandReply : CommandReply),
    reply (withReply response commandReply) = commandReply
  codec : (rpc : TaskRpc) → Codec (Response rpc)
  decode_reply : ∀ (p q : TaskRpc) (response : Response p) (parsed : Response q),
    (codec q).decode ((codec p).encode response) = some parsed → reply parsed = reply response

@[reducible] def mazeService (responses : TaskResponses) : Service where
  Rpc := TaskRpc
  Request := TaskRpc.Request
  Response := responses.Response
  command request := (TaskRpc.command? request).getD {}
  withCommand := TaskRpc.withCommand
  command_withCommand := by simp
  serialize := TaskRpc.serialize
  reply := responses.reply
  withReply := responses.withReply
  reply_withReply := responses.reply_withReply
  responseCodec := responses.codec
  decode_reply := responses.decode_reply

@[reducible] def wireResponses : TaskResponses where
  Response _ := WireResponse
  reply := WireResponse.reply
  withReply response commandReply := { response with reply := commandReply }
  reply_withReply _ _ := rfl
  codec _ := WireResponse.codec
  decode_reply _ _ response parsed decoded := by
    rw [WireResponse.codec.decode_encode response] at decoded
    exact congrArg WireResponse.reply (Option.some.inj decoded).symm

end MazeClient
