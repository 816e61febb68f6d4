import ContainerClients.Main
import ContainerClients.Session
import ContainerClients.Proofs.Utf8
import ContainerClients.Proofs.FileUri
import ContainerClients.Proofs.Translation
import ContainerClients.Proofs.RoundTrip
import ContainerClients.Proofs.ReturnTrip
import ContainerClients.Proofs.Spelling
import ContainerClients.Proofs.Anchors
import ContainerClients.Proofs.ParsedMount
import ContainerClients.Proofs.Rereading
import ContainerClients.Proofs.Coverage
import ContainerClients.Proofs.Stripping
import ContainerClients.Proofs.BindMount
import ContainerClients.Proofs.Connection
import ContainerClients.Proofs.ContainerNames
import ContainerClients.Proofs.Filling
import ContainerClients.Proofs.RegisteredCommand
import ContainerClients.Proofs.TextIds
import ContainerClients.Proofs.Imports
import ContainerClients.Proofs.EntryPoints
import ContainerClients.Proofs.Sources
import ContainerClients.Proofs.BestEffort
import ContainerClients.Proofs.FailingSpec
import ContainerClients.Proofs.ShownCommand
import ContainerClients.Proofs.FillingReport
import ContainerClients.Proofs.Registration
import ContainerClients.Proofs.IndependentSpecs
import ContainerClients.Proofs.ClientOrder
import ContainerClients.Proofs.Refilling
import ContainerClients.Proofs.Selection
import ContainerClients.Proofs.FirstMatch
import ContainerClients.Proofs.UriSpellings
import ContainerClients.Proofs.StreamIntegrity
import ContainerClients.Proofs.SplitWords
import ContainerClients.Proofs.JsonTexts
import ContainerClients.Proofs.TakenWords
import ContainerClients.Proofs.FrontOptions
import ContainerClients.Proofs.SharedOptions
import ContainerClients.Proofs.GivenClients
import ContainerClients.Proofs.LibraryModules
import ContainerClients.Proofs.DryRun
import ContainerClients.Proofs.VolumeFlags
import ContainerClients.Proofs.WordsAgain
import ContainerClients.Proofs.ListedMounts
import ContainerClients.Proofs.GivenOptions
import ContainerClients.Proofs.PrefixTest
import ContainerClients.Proofs.EveryRun
import ContainerClients.Proofs.Derivations
import ContainerClients.Proofs.Lineage
import ContainerClients.Proofs.FileNames
import ContainerClients.Proofs.SpecRecords
import ContainerClients.Proofs.ClientListing
import ContainerClients.Proofs.RuntimeCheck
