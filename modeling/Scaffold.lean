import Scaffold.Calendar
import Scaffold.Command
import Scaffold.Configuration
import Scaffold.Disk
import Scaffold.Editor
import Scaffold.Export.Surface
import Scaffold.Export.Survey
import Scaffold.Failure
import Scaffold.Generation
import Scaffold.Identifier
import Scaffold.ImportLine
import Scaffold.Json
import Scaffold.Language
import Scaffold.Log
import Scaffold.Main
import Scaffold.Number.Binary64
import Scaffold.Number.Decimal
import Scaffold.Number.Shortest
import Scaffold.Options
import Scaffold.Path
import Scaffold.Proofs.DocumentOrder
import Scaffold.Script
import Scaffold.Settings
import Scaffold.ShellWords
import Scaffold.Source.Cursor
import Scaffold.Source.Grammar
import Scaffold.Source.Grammar.Declarations
import Scaffold.Source.Grammar.Expressions
import Scaffold.Source.Grammar.Markup
import Scaffold.Source.Grammar.Members
import Scaffold.Source.Grammar.Parts
import Scaffold.Source.Grammar.Statements
import Scaffold.Source.Grammar.Types
import Scaffold.Source.Letters
import Scaffold.Source.Parse
import Scaffold.Source.Tree
import Scaffold.Target
import Scaffold.TestFile
import Scaffold.Text.Blank
import Scaffold.Text.Digit
import Scaffold.Text.Lowercase
import Scaffold.Text.Printable
import Scaffold.Text.Quoted
import Scaffold.Text.Utf8
import Scaffold.Value
import Scaffold.World
import Scaffold.Yaml.Base64
import Scaffold.Yaml.Fault
import Scaffold.Yaml.Load
import Scaffold.Yaml.Node
import Scaffold.Yaml.Resolve
import Scaffold.Yaml.Scanner
import Scaffold.Yaml.Token
import Scaffold.Proofs.SurveyNames
import Scaffold.Proofs.DiskGrowth
import Scaffold.Proofs.GenerationStages
import Scaffold.Proofs.CommandStages
import Scaffold.Proofs.Overwriting
import Scaffold.Proofs.GenerationFrame
import Scaffold.Proofs.TargetPaths
import Scaffold.Proofs.CommandOutcome
import Scaffold.Proofs.ExportInterface
import Scaffold.Proofs.PrintedRuns
import Scaffold.Proofs.DryRun
import Scaffold.Proofs.Disturbances
import Scaffold.Proofs.Escapes
import Scaffold.Proofs.RunEndings
import Scaffold.Proofs.DefaultFlag
import Scaffold.Proofs.BindingNames
import Scaffold.Proofs.ImportReading
import Scaffold.Proofs.RelativeWays
import Scaffold.Proofs.TargetSpecifiers
import Scaffold.Proofs.RelativeSpecifiers
import Scaffold.Proofs.ImportLiterals
import Scaffold.Proofs.KeyedValues
import Scaffold.Proofs.SettingSources
import Scaffold.Proofs.UnknownKeys
import Scaffold.Proofs.ConfigurationSearch
import Scaffold.Proofs.TestPlaces
import Scaffold.Proofs.BindingRuns
import Scaffold.Proofs.BindableNames
import Scaffold.Proofs.Utf8Forms
import Scaffold.Proofs.SurveyedTexts
import Scaffold.Proofs.UncheckedNames
import Scaffold.Proofs.Regeneration
import Scaffold.Proofs.FolderMaking
import Scaffold.Proofs.GenerationOrder
import Scaffold.Proofs.TestRemoval
import Scaffold.Proofs.LaunchedRuns
import Scaffold.Proofs.JsonReading
import Scaffold.Proofs.JsonRoundTrip
import Scaffold.Proofs.OptionNames
import Scaffold.Proofs.CommandLines
import Scaffold.Proofs.ExclusiveModes
