import ProtectionLimits.CallerError
import ProtectionLimits.CallerError.Display
import ProtectionLimits.CallerError.Making
import ProtectionLimits.CommandLine
import ProtectionLimits.CommandLine.Arguments
import ProtectionLimits.CommandLine.Help
import ProtectionLimits.Decimal
import ProtectionLimits.Entries
import ProtectionLimits.ErrorClass
import ProtectionLimits.Exhibit
import ProtectionLimits.Exhibit.Class
import ProtectionLimits.Exhibit.Class.Collections
import ProtectionLimits.Exhibit.Class.Containers
import ProtectionLimits.Exhibit.Class.Enumerations
import ProtectionLimits.Exhibit.Class.Errors
import ProtectionLimits.Exhibit.Class.Features
import ProtectionLimits.Exhibit.Class.Numbers
import ProtectionLimits.Exhibit.Class.Objects
import ProtectionLimits.Exhibit.Class.Options
import ProtectionLimits.Exhibit.Class.Patterns
import ProtectionLimits.Exhibit.Class.Registries
import ProtectionLimits.Exhibit.Class.Sources
import ProtectionLimits.Exhibit.Class.Texts
import ProtectionLimits.Exhibit.Class.Trackers
import ProtectionLimits.Exhibit.Constant
import ProtectionLimits.Exhibit.Container
import ProtectionLimits.Exhibit.Feature
import ProtectionLimits.Exhibit.Home
import ProtectionLimits.Exhibit.Item
import ProtectionLimits.Exhibit.Kept
import ProtectionLimits.Exhibit.Operator
import ProtectionLimits.Exhibit.Part
import ProtectionLimits.Fault
import ProtectionLimits.Fault.Report
import ProtectionLimits.Kept
import ProtectionLimits.Layout
import ProtectionLimits.Layout.Fractional
import ProtectionLimits.Layout.Numeral
import ProtectionLimits.Layout.Whole
import ProtectionLimits.Limit
import ProtectionLimits.Log
import ProtectionLimits.Log.Scope
import ProtectionLimits.Main
import ProtectionLimits.Manifest
import ProtectionLimits.Number
import ProtectionLimits.Number.Reading
import ProtectionLimits.Number.Rounded
import ProtectionLimits.Number.Shortest
import ProtectionLimits.Numeral
import ProtectionLimits.Options
import ProtectionLimits.Position
import ProtectionLimits.Registry
import ProtectionLimits.Registry.Bootstrap
import ProtectionLimits.Registry.Call
import ProtectionLimits.Registry.Form
import ProtectionLimits.Registry.Opened
import ProtectionLimits.Registry.Reading
import ProtectionLimits.Reply
import ProtectionLimits.Session
import ProtectionLimits.Session.Held
import ProtectionLimits.Session.Inspection
import ProtectionLimits.Session.Languages
import ProtectionLimits.Session.Levels
import ProtectionLimits.Session.Notices
import ProtectionLimits.Session.Objects
import ProtectionLimits.Session.Registries
import ProtectionLimits.Session.Transcript
import ProtectionLimits.Setting
import ProtectionLimits.Settings
import ProtectionLimits.Shape
import ProtectionLimits.Source
import ProtectionLimits.State
import ProtectionLimits.Text.Alphanumeric
import ProtectionLimits.Text.Blank
import ProtectionLimits.Text.ByteReader
import ProtectionLimits.Text.Capital
import ProtectionLimits.Text.CharacterName
import ProtectionLimits.Text.Charset
import ProtectionLimits.Text.Charset.Big5
import ProtectionLimits.Text.Charset.Codepage932
import ProtectionLimits.Text.Charset.Dos
import ProtectionLimits.Text.Charset.Ebcdic
import ProtectionLimits.Text.Charset.Gb18030
import ProtectionLimits.Text.Charset.Gb2312
import ProtectionLimits.Text.Charset.Gbk
import ProtectionLimits.Text.Charset.Hkscs
import ProtectionLimits.Text.Charset.Iso8859
import ProtectionLimits.Text.Charset.JisX0208
import ProtectionLimits.Text.Charset.JisX0212
import ProtectionLimits.Text.Charset.JisX0213
import ProtectionLimits.Text.Charset.KsX1001
import ProtectionLimits.Text.Charset.Macintosh
import ProtectionLimits.Text.Charset.National
import ProtectionLimits.Text.Charset.Windows
import ProtectionLimits.Text.Codepages
import ProtectionLimits.Text.Column
import ProtectionLimits.Text.Digit
import ProtectionLimits.Text.Encoding
import ProtectionLimits.Text.Encoding.Chinese
import ProtectionLimits.Text.Encoding.DomainName
import ProtectionLimits.Text.Encoding.Escaped
import ProtectionLimits.Text.Encoding.Japanese
import ProtectionLimits.Text.Encoding.Korean
import ProtectionLimits.Text.Encoding.Pairs
import ProtectionLimits.Text.Encoding.Punycode
import ProtectionLimits.Text.Encoding.ShiftedUnits
import ProtectionLimits.Text.Encoding.Switched
import ProtectionLimits.Text.Encoding.Units
import ProtectionLimits.Text.EncodingName
import ProtectionLimits.Text.EncodingNames
import ProtectionLimits.Text.Lowercase
import ProtectionLimits.Text.Printable
import ProtectionLimits.Text.Quoted
import ProtectionLimits.Text.Split
import ProtectionLimits.Text.Template
import ProtectionLimits.Text.Undecodable
import ProtectionLimits.Translation
import ProtectionLimits.Translation.Catalog
import ProtectionLimits.Translation.Locale
import ProtectionLimits.Translation.LocaleNames
import ProtectionLimits.Translation.Place
import ProtectionLimits.Translation.PluralRule
import ProtectionLimits.Value
import ProtectionLimits.Value.Literal
import ProtectionLimits.Value.Mapping
import ProtectionLimits.Value.Order
import ProtectionLimits.Warnings
import ProtectionLimits.Warnings.Opened
import ProtectionLimits.Proofs.Numeral
import ProtectionLimits.Proofs.Registry.Operation
import ProtectionLimits.Proofs.Registry.Impact
import ProtectionLimits.Proofs.Registry.Run
import ProtectionLimits.Proofs.Registry.History
import ProtectionLimits.Proofs.Registry.Bootstrap
import ProtectionLimits.Proofs.Fault.Untranslated
import ProtectionLimits.Proofs.Registry.Refusal
import ProtectionLimits.Proofs.Registry.Reordering
import ProtectionLimits.Proofs.Registry.Contents
import ProtectionLimits.Proofs.Registry.EntityCounts
import ProtectionLimits.Proofs.Registry.Decision
import ProtectionLimits.Proofs.Registry.Reading
import ProtectionLimits.Proofs.Registry.Loading
import ProtectionLimits.Proofs.Registry.EntryPoints
import ProtectionLimits.Proofs.Fault.Literal
import ProtectionLimits.Proofs.Registry.Flags
import ProtectionLimits.Proofs.Registry.LateSwitch
import ProtectionLimits.Proofs.Session.Language
import ProtectionLimits.Proofs.Session.Wording
import ProtectionLimits.Proofs.Translation.SharedFunction
import ProtectionLimits.Proofs.Warnings.Calls
import ProtectionLimits.Proofs.Registry.Trail
import ProtectionLimits.Proofs.Log.Scope
import ProtectionLimits.Proofs.Registry.Making
import ProtectionLimits.Proofs.Session.Scope
import ProtectionLimits.Proofs.Options
import ProtectionLimits.Proofs.Settings
import ProtectionLimits.Proofs.Session.Refresh
import ProtectionLimits.Proofs.Session.Settings
import ProtectionLimits.Proofs.Session.UsableSettings
import ProtectionLimits.Proofs.Session.DefaultSettings
import ProtectionLimits.Proofs.Text.Template
import ProtectionLimits.Proofs.CommandLine.Columns
import ProtectionLimits.Proofs.CommandLine.Outcome
import ProtectionLimits.Proofs.Session.Program
import ProtectionLimits.Proofs.Setting.Spelling
import ProtectionLimits.Proofs.Session.Parsing
import ProtectionLimits.Proofs.Registry.Spelling
import ProtectionLimits.Proofs.Registry.Addressing
import ProtectionLimits.Proofs.Options.History
