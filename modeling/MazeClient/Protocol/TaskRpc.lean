import MazeClient.Protocol.Messages

set_option autoImplicit false

namespace MazeClient

inductive TaskRpc where
  | init
  | beginEpisode
  | update
  | endEpisode
  | abortEpisode
  | closeSession
  deriving DecidableEq

@[reducible] def TaskRpc.Request : TaskRpc → Type
  | .init => InitReq
  | .beginEpisode => BeginEpisodeReq
  | .update => UpdateReq
  | .endEpisode => EndEpisodeReq
  | .abortEpisode => AbortEpisodeReq
  | .closeSession => CloseSessionReq

def TaskRpc.command? : {rpc : TaskRpc} → rpc.Request → Option CommandIdentity
  | .init, request => request.command
  | .beginEpisode, request => request.command
  | .update, request => request.command
  | .endEpisode, request => request.command
  | .abortEpisode, request => request.command
  | .closeSession, request => request.command

def TaskRpc.withCommand : {rpc : TaskRpc} → rpc.Request → CommandIdentity → rpc.Request
  | .init, request, command => { request with command := some command }
  | .beginEpisode, request, command => { request with command := some command }
  | .update, request, command => { request with command := some command }
  | .endEpisode, request, command => { request with command := some command }
  | .abortEpisode, request, command => { request with command := some command }
  | .closeSession, request, command => { request with command := some command }

@[simp] theorem TaskRpc.command?_withCommand {rpc : TaskRpc} (request : rpc.Request)
    (command : CommandIdentity) : command? (withCommand request command) = some command := by
  cases rpc <;> rfl

@[reducible] def TaskRpc.Response : TaskRpc → Type
  | .init => InitRsp
  | .beginEpisode => BeginEpisodeRsp
  | .update => UpdateRsp
  | .endEpisode => EndEpisodeRsp
  | .abortEpisode => AbortEpisodeRsp
  | .closeSession => CloseSessionRsp

def TaskRpc.cleared : (rpc : TaskRpc) → rpc.Response
  | .init => {}
  | .beginEpisode => {}
  | .update => {}
  | .endEpisode => {}
  | .abortEpisode => {}
  | .closeSession => {}

def TaskRpc.reply : {rpc : TaskRpc} → rpc.Response → CommandReply
  | .init, response => response.reply
  | .beginEpisode, response => response.reply
  | .update, response => response.reply
  | .endEpisode, response => response.reply
  | .abortEpisode, response => response.reply
  | .closeSession, response => response.reply

inductive SessionRpc where
  | openSession
  | task (rpc : TaskRpc)
  deriving DecidableEq

@[reducible] def SessionRpc.Request : SessionRpc → Type
  | .openSession => OpenSessionReq
  | .task rpc => rpc.Request

@[reducible] def SessionRpc.Response : SessionRpc → Type
  | .openSession => OpenSessionRsp
  | .task rpc => rpc.Response

end MazeClient
