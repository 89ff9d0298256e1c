import TestScaffold.Main
import TestScaffold.Proofs.Discovery.FirstSpelling
import TestScaffold.Proofs.Batch.SourceGuard
import TestScaffold.Proofs.Batch.SourcePath
import TestScaffold.Proofs.Batch.Collision
import TestScaffold.Proofs.Batch.Effect
import TestScaffold.Proofs.Batch.Rerun
import TestScaffold.Proofs.Batch.Sharing
import TestScaffold.Proofs.TestModule.Rescan
import TestScaffold.Proofs.Batch.Isolation
import TestScaffold.Proofs.CommandLine.Stops
import TestScaffold.Proofs.Batch.Order
import TestScaffold.Proofs.Batch.Frame
import TestScaffold.Proofs.Catalogue.DocumentOrder
import TestScaffold.Proofs.Dialogue.Answers
import TestScaffold.Proofs.Answer.Indentation
import TestScaffold.Proofs.CommandLine.Layers
import TestScaffold.Proofs.Dialogue.Input
import TestScaffold.Proofs.Dialogue.Script
import TestScaffold.Proofs.Dialogue.Rounds
import TestScaffold.Proofs.Dialogue.Ending
import TestScaffold.Proofs.Dialogue.Blank
import TestScaffold.Proofs.Dialogue.Refusal
import TestScaffold.Proofs.TestModule.Contents
import TestScaffold.Proofs.TestModule.Definitions
import TestScaffold.Proofs.SettingsFile.Overlay
import TestScaffold.Proofs.TestModule.Imports
import TestScaffold.Proofs.Discovery.FixedPoint
import TestScaffold.Proofs.Discovery.Listing
import TestScaffold.Proofs.Discovery.Exclusion
import TestScaffold.Proofs.FileSystem.Cleaning
import TestScaffold.Proofs.Catalogue.FirstFault
