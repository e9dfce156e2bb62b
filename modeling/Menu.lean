import Menu.Main
import Menu.Session.Fields
import Menu.Proofs.Build.Halts
import Menu.Proofs.Blocks.Order
import Menu.Proofs.Blocks.Turn
import Menu.Proofs.Blocks.Hidden
import Menu.Proofs.Build.History
import Menu.Proofs.Includes.Once
import Menu.Proofs.Blocks.Choice
import Menu.Proofs.Blocks.Warnings
import Menu.Proofs.Build.Aborts
import Menu.Proofs.Build.Whole
import Menu.Proofs.Context.Behind
import Menu.Proofs.Context.Commands
import Menu.Proofs.Entries.Templates
import Menu.Proofs.Includes.Import
import Menu.Proofs.Includes.Literal
import Menu.Proofs.Includes.Titles
import Menu.Proofs.Build.Positions
import Menu.Proofs.Build.CutOff
import Menu.Proofs.Includes.Pasting
import Menu.Proofs.Build.Answers
import Menu.Proofs.Build.Streams
import Menu.Proofs.Includes.Sources
import Menu.Proofs.Entries.Written
import Menu.Proofs.Session.Fresh
import Menu.Proofs.Session.Rows
import Menu.Proofs.Session.Effects
import Menu.Proofs.Session.Meanwhile
import Menu.Proofs.Includes.Keys
import Menu.Proofs.Includes.Refused
import Menu.Proofs.Directive.Feed
import Menu.Proofs.Directive.Escaped
import Menu.Proofs.Blocks.Muted
import Menu.Proofs.Blocks.Rewriting
import Menu.Proofs.Includes.Home
