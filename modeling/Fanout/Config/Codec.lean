import Fanout.Config.Basic
import Fanout.Toml.Decode

/-!
# Cluster files as TOML

How the parts of a cluster file are written. Everything but the members' own fields has a default.
-/
namespace Fanout

open Toml (Decoder)
open Toml.Decode

namespace Config

def portDecoder : Decoder UInt16 := fun v =>
  (integer 0 (UInt16.size - 1) "u16" v).map fun n => n.toNat.toUInt16

def contentDecoder : Decoder Int32 := fun v =>
  (integer Int32.minValue.toInt Int32.maxValue.toInt "i32" v).map Int32.ofInt

def retriesDecoder : Decoder UInt32 := fun v =>
  (integer 0 (UInt32.size - 1) "u32" v).map fun n => n.toNat.toUInt32

def jobsDecoder : Decoder UInt64 := fun v =>
  (integer 0 (UInt64.size - 1) "usize" v).map fun n => n.toNat.toUInt64

def roleDecoder : Decoder Role :=
  variant Role.ofName? "one of `coordinator`, `primary`, `mirror`"

def coordinatorDecoder : Decoder CoordinatorEntry := fun v => do
  let found ← record "CoordinatorConfig" [field "hostname" text,
    optionalField "port" portDecoder, optionalField "data_dir" text] v
  let hostname ← required "hostname" text found
  let port ← withDefault "port" (some? portDecoder) none found
  let dataDir ← withDefault "data_dir" (some? text) none found
  return { hostname, port, dataDir }

def segmentDecoder : Decoder SegmentEntry := fun v => do
  let found ← record "SegmentConfig" [field "content" contentDecoder, field "role" roleDecoder,
    field "hostname" text, field "port" portDecoder, optionalField "data_dir" text] v
  let content ← required "content" contentDecoder found
  let role ← required "role" roleDecoder found
  let hostname ← required "hostname" text found
  let port ← required "port" portDecoder found
  let dataDir ← withDefault "data_dir" (some? text) none found
  return { content, role, hostname, port, dataDir }

def dispatchDecoder : Decoder DispatchSettings := fun v => do
  let found ← record "DispatchSettings" [optionalField "jobs" jobsDecoder,
    optionalField "continue_on_error" bool, optionalField "retries" retriesDecoder] v
  let d := DispatchSettings.default
  let jobs ← withDefault "jobs" jobsDecoder d.jobs found
  let continueOnError ← withDefault "continue_on_error" bool d.continueOnError found
  let retries ← withDefault "retries" retriesDecoder d.retries found
  return { jobs, continueOnError, retries }

def sshDecoder : Decoder SshSettings := fun v => do
  let found ← record "SshSettings" [optionalField "program" text, optionalField "user" text,
    optionalField "options" (list text)] v
  let d := SshSettings.default
  let program ← withDefault "program" text d.program found
  let user ← withDefault "user" (some? text) d.user found
  let options ← withDefault "options" (list text) d.options found
  return { program, user, options }

def decoder : Decoder Config := fun v => do
  let found ← record "ClusterConfig" [optionalField "coordinator" coordinatorDecoder,
    optionalField "segments" (list segmentDecoder), optionalField "dispatch" dispatchDecoder,
    optionalField "ssh" sshDecoder] v
  let coordinator ← withDefault "coordinator" (some? coordinatorDecoder) none found
  let segments ← withDefault "segments" (list segmentDecoder) [] found
  let dispatch ← withDefault "dispatch" dispatchDecoder .default found
  let ssh ← withDefault "ssh" sshDecoder .default found
  return { coordinator, segments, dispatch, ssh }

/-- What a text says, read as a cluster file. -/
def ofText (s : String) : Except Toml.Error Config :=
  Toml.decode decoder s

end Config

end Fanout
