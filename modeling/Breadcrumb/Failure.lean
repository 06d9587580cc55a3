import Breadcrumb.Scan
import Breadcrumb.Selection
import Breadcrumb.Settings

namespace Breadcrumb

inductive Failure where
  | projectMissing (path : Text)
  | projectNotFolder (path : Text)
  | access (fault : FileFault)
  | settings (fault : Settings.Fault)
  | undecodable (fault : DecodeFault)
  | expression (rejection : Pattern.Rejection)
  | unsupportedFormat (format : Text)
  | blankSigil
  | tooManyDigits (fault : TooManyDigits)
  | unprintable (fault : Unprintable)
  deriving DecidableEq

namespace Failure

def message : Failure → Text
  | .projectMissing path => "Project path not found: ".toList ++ path
  | .projectNotFolder path => "Project path is not a directory: ".toList ++ path
  | .access fault => fault.message
  | .settings fault => fault.message
  | .undecodable fault => fault.message
  | .expression rejection => Selection.message rejection
  | .unsupportedFormat format => "unsupported output format: ".toList ++ format
  | .blankSigil => "Marker sigil must not be empty".toList
  | .tooManyDigits fault => fault.message
  | .unprintable fault => fault.message

/-- How a failure is reported: nothing is there, no folder is there, the settings or a value are
wrong, the files are in the way, or the failure is not expected at all. -/
inductive Kind where
  | missing
  | notFolder
  | settings
  | value
  | files
  | unexpected
  deriving DecidableEq

end Failure

def FileFault.kind : FileFault → Failure.Kind
  | .refused .missing _ => .missing
  | .refused .notFolder _ => .notFolder
  | .refused _ _ => .files
  | .nullInPath => .value
  | .linkLoop _ | .homeUnknown => .unexpected

def Yaml.Fault.kind : Yaml.Fault → Failure.Kind
  | .malformed => .settings
  | .codePoint code => if Yaml.maxCode < code then .unexpected else .value
  | .emptyNumber | .boolean _ | .timestamp => .unexpected
  | .integer .. | .tooManyDigits _ | .real _ | .moment _ => .value

def Settings.Fault.kind : Settings.Fault → Failure.Kind
  | .access fault => fault.kind
  | .undecodable _ | .unprintable _ => .value
  | .value fault => fault.kind
  | .malformed _ | .notMapping | .unsupportedFormat _ => .settings

namespace Failure

def kind : Failure → Kind
  | .projectMissing _ => .missing
  | .projectNotFolder _ => .notFolder
  | .access fault => fault.kind
  | .settings fault => fault.kind
  | .undecodable _ => .value
  | .expression rejection =>
    if rejection.fault.cause = .repetitionTooLarge then .unexpected else .value
  | .unsupportedFormat _ | .blankSigil | .tooManyDigits _ | .unprintable _ => .value

end Failure

end Breadcrumb
