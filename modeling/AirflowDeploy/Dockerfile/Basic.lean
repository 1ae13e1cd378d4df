import AirflowDeploy.Files.Fault
import AirflowDeploy.Text.Numeral

/-!
# Dockerfiles

A Dockerfile is a list of instructions, each with its keyword, its arguments and the line that
it starts on.
-/
namespace AirflowDeploy

inductive Keyword where
  | add | arg | cmd | copy | entrypoint | env | expose | fromImage | healthcheck | label
  | maintainer | onbuild | run | shell | stopsignal | user | volume | workdir
  deriving DecidableEq, Repr

namespace Keyword

def name : Keyword → String
  | .add => "ADD"
  | .arg => "ARG"
  | .cmd => "CMD"
  | .copy => "COPY"
  | .entrypoint => "ENTRYPOINT"
  | .env => "ENV"
  | .expose => "EXPOSE"
  | .fromImage => "FROM"
  | .healthcheck => "HEALTHCHECK"
  | .label => "LABEL"
  | .maintainer => "MAINTAINER"
  | .onbuild => "ONBUILD"
  | .run => "RUN"
  | .shell => "SHELL"
  | .stopsignal => "STOPSIGNAL"
  | .user => "USER"
  | .volume => "VOLUME"
  | .workdir => "WORKDIR"

def all : List Keyword :=
  [.add, .arg, .cmd, .copy, .entrypoint, .env, .expose, .fromImage, .healthcheck, .label,
    .maintainer, .onbuild, .run, .shell, .stopsignal, .user, .volume, .workdir]

def ofName? (name : String) : Option Keyword := all.find? fun keyword => keyword.name == name

end Keyword

structure Instruction where
  keyword : Keyword
  args : String
  line : Nat
  deriving DecidableEq, Repr

structure Dockerfile where
  instructions : List Instruction
  deriving DecidableEq, Repr

inductive DockerfileError where
  | unreadable (path : String) (cause : IoFault)
  | unknownInstruction (keyword : String) (line : Nat)
  | missingArguments (keyword : Keyword) (line : Nat)
  | empty
  | noFrom (line : Nat)
  deriving DecidableEq, Repr

namespace DockerfileError

def lineText (line : Nat) : String := String.ofList (Text.decimal line)

def message : DockerfileError → String
  | .unreadable path cause => "failed to read " ++ path ++ ": " ++ cause.message
  | .unknownInstruction keyword line =>
    "unknown instruction '" ++ keyword ++ "' on line " ++ lineText line
  | .missingArguments keyword line =>
    "instruction " ++ keyword.name ++ " on line " ++ lineText line ++ " has no arguments"
  | .empty => "file with no instructions"
  | .noFrom line => "no FROM instruction before line " ++ lineText line

end DockerfileError

end AirflowDeploy
